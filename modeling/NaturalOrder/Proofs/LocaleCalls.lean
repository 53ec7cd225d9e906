import NaturalOrder.Proofs.LocaleInForce

/-!
# Calls that need a platform's locales

Resolving an identifier, choosing a collation, making the collation of a locale and comparing by a collation
all go through the one locale in force. Here is any row of such calls on one process. Each call is done as if
there were no locale in force at all (`Platform.answer_runsAs`). So the locale is the same after each of them,
whether it gave an answer or failed, and no answer depends on which locale that is
(`Platform.outcomes_eq_map`).
-/

namespace NaturalOrder

namespace Platform

inductive Call
  | resolve (id : Text)
  | choose (id : Option Text)
  /-- The collation of the locale for an identifier, which need not be installed. -/
  | make (id : Text)
  | compare (c : Collation) (a b : Text)

inductive Answer
  | name (full : Text)
  | collation (c : Collation) (warning : Option Warning)
  | order (o : Ordering)
  deriving DecidableEq

/-- What a call gives, with names looked up and texts compared in some way. -/
def Call.answer {m : Type → Type} [Monad m] (probe : Text → ExceptT Refusal m Text)
    (collator : Collation → Collator (ExceptT Error m)) : Call → ExceptT Error m Answer
  | .resolve id => .name <$> LocaleId.resolve probe id
  | .choose id => (fun c => .collation c.1 c.2) <$> Collation.choose probe id
  | .make id => (fun full => .collation (.locale full) none) <$> LocaleId.resolve probe id
  | .compare c a b => .order <$> (collator c).compare a b

variable (p : Platform)

/-- The outcomes of calls that are made one after another, each with the locale in force after it. -/
def outcomes : List Call → Text → List (Except Error Answer × Text)
  | [], _ => []
  | call :: calls, s =>
    let (outcome, next) := (call.answer p.probe p.collator).run.run s
    (outcome, next) :: outcomes calls next

/-- The collator for a collation, without a locale in force. -/
def stillCollator (c : Collation) : Collator (ExceptT Error Id) :=
  match c with
  | .root => .root
  | .locale name => ⟨c.shown, fun a b => (p.orderIn name a b).adapt Error.refused⟩

/-- The outcome of a call, without a locale in force. -/
def answer (call : Call) : Except Error Answer := (call.answer p.lookup p.stillCollator).run.run

variable {p} {s : Text}

section
variable {probe : Text → Process Text} {names : Text → ExceptT Refusal Id Text}
  (h : ∀ name, RunsAs (probe name) s (names name))
include h

theorem firstAccepted_runsAs (name : Text) (others : List Text) :
    RunsAs (LocaleId.firstAccepted probe name others) s (LocaleId.firstAccepted names name others) := by
  induction others generalizing name with
  | nil => exact h name
  | cons next others ih =>
    refine (h name).tryCatch ?_
    intro _
    exact ih next

theorem resolve_runsAs (id : Text) : RunsAs (LocaleId.resolve probe id) s (LocaleId.resolve names id) :=
  (firstAccepted_runsAs h _ _).adapt (Error.locale id)

theorem ofId_runsAs (id : Text) : RunsAs (Collation.ofId probe id) s (Collation.ofId names id) := by
  unfold Collation.ofId
  split
  · exact RunsAs.pure _ s
  · exact (resolve_runsAs h id).map Collation.locale

theorem ofEnvironment_runsAs : RunsAs (Collation.ofEnvironment probe) s (Collation.ofEnvironment names) := by
  unfold Collation.ofEnvironment
  refine (h []).lift.bind ?_
  rintro (refusal | name)
  · cases refusal with
    | notInstalled => exact RunsAs.pure _ s
    | embeddedNul => exact RunsAs.throw _ s
    | undecodable => exact RunsAs.throw _ s
  · dsimp only
    split
    · exact RunsAs.pure _ s
    · refine (resolve_runsAs h name).bind ?_
      intro full
      exact RunsAs.pure _ s

theorem choose_runsAs (id : Option Text) :
    RunsAs (Collation.choose probe id) s (Collation.choose names id) := by
  cases id with
  | none => exact ofEnvironment_runsAs h
  | some id => exact (ofId_runsAs h id).map _

end

theorem collator_runsAs (hs : p.select s = .ok s) (c : Collation) (a b : Text) :
    RunsAs ((p.collator c).compare a b) s ((p.stillCollator c).compare a b) := by
  cases c with
  | root => exact RunsAs.pure _ s
  | locale name => exact (compareIn_runsAs hs name a b).adapt Error.refused

theorem answer_runsAs (hs : p.select s = .ok s) (call : Call) :
    RunsAs (call.answer p.probe p.collator) s (call.answer p.lookup p.stillCollator) := by
  cases call with
  | resolve id => exact (resolve_runsAs (probe_runsAs hs) id).map _
  | choose id => exact (choose_runsAs (probe_runsAs hs) id).map _
  | make id => exact (resolve_runsAs (probe_runsAs hs) id).map _
  | compare c a b => exact (collator_runsAs hs c a b).map _

/-- Where a name that the platform gives is in force, every call leaves it in force, and its outcome is the
same whichever name that is. -/
theorem outcomes_eq_map (p : Platform) (s : Text) (hs : p.select s = .ok s) (calls : List Call) :
    p.outcomes calls s = calls.map fun call => (p.answer call, s) := by
  induction calls with
  | nil => rfl
  | cons call calls ih =>
    have hcall : (call.answer p.probe p.collator).run.run s = (p.answer call, s) := answer_runsAs hs call
    rw [outcomes, hcall, List.map_cons, ← ih]

/-- The basic platform, if it could not compare any texts. -/
def withoutOrder : Platform := { basic {} with collate := fun _ _ _ => .error .embeddedNul }

theorem outcomes_eq_map_withoutOrder :
    withoutOrder.select "C.UTF-8".toList = .ok "C.UTF-8".toList ∧
    withoutOrder.outcomes [.resolve "qq_QQ".toList, .choose none, .make "posix".toList,
        .compare (.locale ['C']) ['a'] ['b'], .compare (.locale "C.UTF-8".toList) ['a'] ['a']]
        "C.UTF-8".toList =
      [(.error (.locale "qq_QQ".toList .notInstalled), "C.UTF-8".toList),
        (.ok (.collation (.locale ['C']) none), "C.UTF-8".toList),
        (.ok (.collation (.locale ['C']) none), "C.UTF-8".toList),
        (.error (.refused .embeddedNul), "C.UTF-8".toList), (.ok (.order .eq), "C.UTF-8".toList)] := by
  have hs : withoutOrder.select "C.UTF-8".toList = .ok "C.UTF-8".toList := by decide +kernel
  refine ⟨hs, ?_⟩
  rw [outcomes_eq_map withoutOrder _ hs]
  decide +kernel

end Platform

end NaturalOrder
