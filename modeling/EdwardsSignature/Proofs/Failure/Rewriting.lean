import EdwardsSignature.Failure
import Mathlib.Data.List.Basic

/-!
# Failures that are rewritten

Callers put another context or another message in place of the one in a failure, and so may their
callers, any number of times (`Failure.rewrite`). What a step does is told by what can be seen of a
failure: its kind, its context, its message, if it has one, and its lengths, if it has them. A step
changes one of these at most (`Failure.kind_apply`, `Failure.context_apply`, `Failure.message?_apply`,
`Failure.lengths?_apply`), and there is nothing else in a failure (`Failure.ext_view`).

So it is the last context that counts after a chain of steps, and the last message, wherever they are in
the chain and whatever is between them; all else is as it was (`Failure.last_rewriting_counts`). Chains
that end up with the same context and message do the same to every failure (`Failure.rewrite_congr`).
-/

namespace EdwardsSignature

/-! ## Chains of steps -/

/-- One step of rewriting a failure. -/
inductive Rewriting where
  /-- Another context. -/
  | context (context : String)
  /-- Another message. -/
  | message (message : String)

namespace Rewriting

/-- The context that a step puts in place. -/
def newContext? : Rewriting → Option String
  | context c => some c
  | message _ => none

/-- The message that a step puts in place. -/
def newMessage? : Rewriting → Option String
  | context _ => none
  | message m => some m

/-- What there is of a part of a failure after a chain of steps: what the last step that puts a new one
    in place has, or its `own` one, if there is no such step. -/
def last (new? : Rewriting → Option String) (steps : List Rewriting) (own : String) : String :=
  (steps.filterMap new?).getLastD own

variable {new? : Rewriting → Option String} {step step' : Rewriting}

theorem last_cons (step : Rewriting) (steps : List Rewriting) (own : String) :
    last new? (step :: steps) own = last new? steps ((new? step).getD own) := by
  rw [last, List.filterMap_cons]
  split
  · next h => rw [h, Option.getD_none, last]
  · next new h => rw [h, Option.getD_some, List.getLastD_cons, last]

theorem last_append (steps later : List Rewriting) (own : String) :
    last new? (steps ++ later) own = last new? later (last new? steps own) := by
  induction steps generalizing own with
  | nil => rfl
  | cons step steps ih => rw [List.cons_append, last_cons, ih, last_cons]

/-- A step that does not touch the part may be left out. -/
theorem last_append_cons_of_eq_none (h : new? step = none) (steps later : List Rewriting)
    (own : String) : last new? (steps ++ step :: later) own = last new? (steps ++ later) own := by
  rw [last_append, last_cons, h, Option.getD_none, last_append]

/-- So may a step after which another one puts the part in place. -/
theorem last_append_cons_of_isSome (h : (new? step').isSome) (steps between later : List Rewriting)
    (own : String) :
    last new? (steps ++ step :: (between ++ step' :: later)) own =
      last new? (steps ++ (between ++ step' :: later)) own := by
  obtain ⟨new, hnew⟩ := Option.isSome_iff_exists.1 h
  -- Both come to what the later step has.
  simp only [last_append, last_cons, hnew, Option.getD_some]

end Rewriting

namespace Failure

open Rewriting (last newContext? newMessage? last_cons last_append_cons_of_eq_none
  last_append_cons_of_isSome)

/-! ## What can be seen of a failure -/

/-- The kinds of failures. -/
inductive Kind where
  /-- A key is invalid. -/
  | key
  /-- A signature is invalid. -/
  | signature
  /-- A length is wrong. -/
  | length
  /-- A parameter is invalid. -/
  | parameter

/-- The kind of the failure. -/
def kind : Failure → Kind
  | invalidKey _ _ => .key
  | invalidSignature _ _ => .signature
  | invalidLength _ _ _ => .length
  | invalidParameter _ _ => .parameter

/-- The message of the failure, if it has one. -/
def message? : Failure → Option String
  | invalidKey _ message => some message
  | invalidSignature _ message => some message
  | invalidLength _ _ _ => none
  | invalidParameter _ message => some message

/-- The expected and the actual length, if the failure has them. -/
def lengths? : Failure → Option (ℕ × ℕ)
  | invalidKey _ _ => none
  | invalidSignature _ _ => none
  | invalidLength _ expected actual => some (expected, actual)
  | invalidParameter _ _ => none

/-- There is nothing else in a failure. -/
theorem ext_view {f g : Failure} (hkind : f.kind = g.kind) (hcontext : f.context = g.context)
    (hmessage : f.message? = g.message?) (hlengths : f.lengths? = g.lengths?) : f = g := by
  cases f <;> cases g <;> simp_all [kind, context, message?, lengths?]

/-! ## Steps -/

/-- The failure after a step. -/
def apply (f : Failure) : Rewriting → Failure
  | .context c => f.withContext c
  | .message m => f.withMessage m

section

variable (f : Failure) (step : Rewriting)

theorem kind_apply : (f.apply step).kind = f.kind := by
  cases step <;> cases f <;> rfl

theorem context_apply : (f.apply step).context = step.newContext?.getD f.context := by
  cases step <;> cases f <;> rfl

/-- A message is put in place of another one only. -/
theorem message?_apply :
    (f.apply step).message? = f.message?.map fun own => step.newMessage?.getD own := by
  cases step <;> cases f <;> rfl

theorem lengths?_apply : (f.apply step).lengths? = f.lengths? := by
  cases step <;> cases f <;> rfl

end

/-! ## Chains -/

/-- The failure after a chain of steps. -/
def rewrite (f : Failure) (steps : List Rewriting) : Failure := steps.foldl apply f

section

variable (f : Failure) (steps : List Rewriting)

theorem rewrite_cons (step : Rewriting) : f.rewrite (step :: steps) = (f.apply step).rewrite steps := rfl

theorem kind_rewrite : (f.rewrite steps).kind = f.kind := by
  induction steps generalizing f with
  | nil => rfl
  | cons step steps ih => rw [rewrite_cons, ih, kind_apply]

theorem context_rewrite : (f.rewrite steps).context = last newContext? steps f.context := by
  induction steps generalizing f with
  | nil => rfl
  | cons step steps ih => rw [rewrite_cons, ih, context_apply, last_cons]

theorem message?_rewrite : (f.rewrite steps).message? = f.message?.map (last newMessage? steps) := by
  induction steps generalizing f with
  | nil => exact Option.map_id_apply.symm
  | cons step steps ih =>
    rw [rewrite_cons, ih, message?_apply, Option.map_map]
    exact Option.map_congr fun own _ => (last_cons step steps own).symm

theorem lengths?_rewrite : (f.rewrite steps).lengths? = f.lengths? := by
  induction steps generalizing f with
  | nil => rfl
  | cons step steps ih => rw [rewrite_cons, ih, lengths?_apply]

end

section

variable {f g : Failure} {steps steps' : List Rewriting}

/-- What a chain of steps makes of a failure, told by what can be seen of it. -/
theorem rewrite_eq (hkind : g.kind = f.kind) (hcontext : g.context = last newContext? steps f.context)
    (hmessage : g.message? = f.message?.map (last newMessage? steps)) (hlengths : g.lengths? = f.lengths?) :
    f.rewrite steps = g := by
  apply ext_view
  · rw [kind_rewrite, hkind]
  · rw [context_rewrite, hcontext]
  · rw [message?_rewrite, hmessage]
  · rw [lengths?_rewrite, hlengths]

/-- Chains that end up with the same context and message do the same. -/
theorem rewrite_congr (hcontext : ∀ own, last newContext? steps own = last newContext? steps' own)
    (hmessage : ∀ own, last newMessage? steps own = last newMessage? steps' own) :
    f.rewrite steps = f.rewrite steps' := by
  apply rewrite_eq
  · exact kind_rewrite f steps'
  · rw [context_rewrite, hcontext]
  · rw [message?_rewrite, funext hmessage]
  · exact lengths?_rewrite f steps'

end

/-- After a chain of steps, a failure is of the kind that it was of; its context is the last one that was
    put in place, if any; and so is its message, but that a wrong length has none and keeps its lengths.
    So a context and a message may be put in place in either order, and a step undoes what there was of
    its kind in the chain ahead of it, wherever that was. For a wrong length, another message makes no
    difference. -/
theorem last_rewriting_counts :
    (∀ steps : List Rewriting,
      (∀ context message, (invalidKey context message).rewrite steps =
        invalidKey (last newContext? steps context) (last newMessage? steps message)) ∧
      (∀ context message, (invalidSignature context message).rewrite steps =
        invalidSignature (last newContext? steps context) (last newMessage? steps message)) ∧
      (∀ context message, (invalidParameter context message).rewrite steps =
        invalidParameter (last newContext? steps context) (last newMessage? steps message)) ∧
      ∀ context expected actual, (invalidLength context expected actual).rewrite steps =
        invalidLength (last newContext? steps context) expected actual) ∧
    (∀ (f : Failure) context message,
      (f.withContext context).withMessage message = (f.withMessage message).withContext context) ∧
    (∀ (f : Failure) (steps between later : List Rewriting),
      (∀ context context', f.rewrite (steps ++ .context context :: (between ++ .context context' :: later)) =
        f.rewrite (steps ++ (between ++ .context context' :: later))) ∧
      ∀ message message', f.rewrite (steps ++ .message message :: (between ++ .message message' :: later)) =
        f.rewrite (steps ++ (between ++ .message message' :: later))) ∧
    ∀ context expected actual message (steps later : List Rewriting),
      (invalidLength context expected actual).rewrite (steps ++ .message message :: later) =
        (invalidLength context expected actual).rewrite (steps ++ later) := by
  refine ⟨fun steps => ⟨?_, ?_, ?_, ?_⟩, ?_, fun f steps between later => ⟨?_, ?_⟩, ?_⟩
  · exact fun _ _ => rewrite_eq rfl rfl rfl rfl
  · exact fun _ _ => rewrite_eq rfl rfl rfl rfl
  · exact fun _ _ => rewrite_eq rfl rfl rfl rfl
  · exact fun _ _ _ => rewrite_eq rfl rfl rfl rfl
  · intro f context message
    have horder : f.rewrite [.context context, .message message] =
        f.rewrite [.message message, .context context] := rewrite_congr (fun _ => rfl) fun _ => rfl
    exact horder
  · intro context context'
    exact rewrite_congr (last_append_cons_of_isSome rfl steps between later)
      (last_append_cons_of_eq_none rfl steps _)
  · intro message message'
    exact rewrite_congr (last_append_cons_of_eq_none rfl steps _)
      (last_append_cons_of_isSome rfl steps between later)
  · intro context expected actual message steps later
    apply rewrite_eq
    · exact kind_rewrite _ _
    · rw [context_rewrite, last_append_cons_of_eq_none rfl]
    · rw [message?_rewrite]
      rfl
    · exact lengths?_rewrite _ _

end Failure

end EdwardsSignature
