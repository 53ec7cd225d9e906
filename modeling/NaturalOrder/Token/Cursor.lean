import NaturalOrder.Token.Scan

/-!
# Cursors

A cursor walks over a text token by token. Any number of iterators can be started over one cursor.
They share it, so whichever is asked takes the next token, and each is finished once it has given
the empty token or has failed. The position of a cursor can be set to any number. A step from a
position outside of the text fails and leaves the cursor as it is.
-/

namespace NaturalOrder

structure Cursor where
  value : Text
  position : Int
  /-- The token that was taken last. -/
  token : Option Token := none
  deriving DecidableEq

namespace Cursor

/-- A cursor at a position of a text. -/
def start (value : Text) (position : Int) : Except Error Cursor :=
  if 0 ≤ position ∧ position ≤ value.length then .ok { value, position }
  else .error (.position value position)

variable (c : Cursor)

def lookahead : Except Error Token := nextToken c.value c.position

/-- Takes the next token. -/
def advance : Except Error Token × Cursor :=
  match c.lookahead with
  | .error e => (.error e, c)
  | .ok t => (.ok t, { c with position := t.stop, token := some t })

/-- The number of characters after the position. -/
def unread : Nat := (c.value.length - c.position).toNat

theorem unread_advance {t : Token} {d : Cursor} (h : c.advance = (.ok t, d))
    (ht : t.kind ≠ .empty) : d.unread < c.unread := by
  unfold advance at h
  split at h
  · simp at h
  · next u hu =>
    simp only [Prod.mk.injEq, Except.ok.injEq] at h
    obtain ⟨rfl, rfl⟩ := h
    have := stop_of_nextToken hu ht
    simp only [unread]
    omega

/-- Takes all tokens up to the empty one. -/
def drain (c : Cursor) : Except Error (List Token) × Cursor :=
  match _h : c.advance with
  | (.error e, d) => (.error e, d)
  | (.ok t, d) =>
    if _ht : t.kind = .empty then (.ok [t], d)
    else
      let (rest, last) := d.drain
      (rest.map (t :: ·), last)
termination_by c.unread
decreasing_by exact c.unread_advance ‹_› ‹_›

end Cursor

/-- All tokens of a text from a position on. The last one and no other is empty. -/
def tokenize (value : Text) (position : Int) : Except Error (List Token) :=
  Cursor.start value position >>= fun c => c.drain.1

/-- A cursor with the iterators that were started over it. -/
structure Walk where
  cursor : Cursor
  /-- For each iterator, whether it is finished. -/
  finished : List Bool := []
  deriving DecidableEq

namespace Walk

inductive Step
  | advance
  | lookahead
  /-- A new iterator takes all tokens at once. -/
  | drain
  /-- A new iterator is started. -/
  | iterate
  | next (iterator : Nat)
  | moveTo (position : Int)

inductive Answer
  | token (t : Token)
  | tokens (ts : List Token)
  /-- The number of iterators. -/
  | iterators (count : Nat)
  | nothing

variable (w : Walk)

/-- The next token of an iterator, or nothing if it is finished. -/
def next (i : Nat) : Except Error Answer × Walk :=
  if w.finished.getD i true then (.ok .nothing, w)
  else match w.cursor.advance with
    | (.error e, c) => (.error e, ⟨c, w.finished.set i true⟩)
    | (.ok t, c) => (.ok (.token t), ⟨c, w.finished.set i (t.kind = .empty)⟩)

def step : Step → Except Error Answer × Walk
  | .advance =>
    let (t, c) := w.cursor.advance
    (t.map .token, { w with cursor := c })
  | .lookahead => (w.cursor.lookahead.map .token, w)
  | .drain =>
    let (ts, c) := w.cursor.drain
    (ts.map .tokens, { w with cursor := c })
  | .iterate =>
    (.ok (.iterators (w.finished.length + 1)), { w with finished := w.finished ++ [false] })
  | .next i => w.next i
  | .moveTo position => (.ok .nothing, { w with cursor := { w.cursor with position } })

end Walk

end NaturalOrder
