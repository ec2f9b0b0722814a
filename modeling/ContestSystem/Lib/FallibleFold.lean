import Mathlib.Data.List.Basic
import Mathlib.Tactic.Common

/-!
# Loops that may throw

A loop that updates a state for every element and may throw is `List.foldlM`
in `Except`. Its invariant speaks about the state and the elements already
consumed. From a characterization of the single step the rules below derive
when the whole loop returns, what it returns and which errors it can throw.
-/

namespace ContestSystem.Lib.FallibleFold

set_option autoImplicit false

variable {State Item Error : Type*} {step : State → Item → Except Error State}

theorem fold_cons_eq_ok {state finish : State} {item : Item} {items : List Item} :
    (item :: items).foldlM step state = .ok finish ↔
      ∃ next, step state item = .ok next ∧ items.foldlM step next = .ok finish := by
  cases stepped : step state item <;>
    simp [List.foldlM_cons, stepped, Bind.bind, Except.bind]

/-- Every element is accepted when the elements before it have been consumed. -/
def AcceptAll (Accept : List Item → Item → Prop) : List Item → List Item → Prop
  | _, [] => True
  | before, item :: items => Accept before item ∧ AcceptAll Accept (before ++ [item]) items

theorem accept_all_pairwise_iff (Related : Item → Item → Prop) (before items : List Item) :
    AcceptAll (fun before item => ∀ earlier ∈ before, Related earlier item) before items ↔
      (∀ earlier ∈ before, ∀ item ∈ items, Related earlier item) ∧ items.Pairwise Related := by
  induction items generalizing before with
  | nil => simp [AcceptAll]
  | cons item items ih =>
      simp only [AcceptAll, ih, List.mem_append, List.mem_cons, List.not_mem_nil, or_false,
        List.pairwise_cons]
      constructor
      · rintro ⟨head, cross, tail⟩
        refine ⟨?_, fun later member => cross item (.inr rfl) later member, tail⟩
        rintro earlier member later (rfl | inside)
        · exact head earlier member
        · exact cross earlier (.inl member) later inside
      · rintro ⟨cross, head, tail⟩
        refine ⟨fun earlier member => cross earlier member item (.inl rfl), ?_, tail⟩
        rintro earlier (member | rfl) later inside
        · exact cross earlier member later (.inr inside)
        · exact head later inside

theorem accept_all_forall_iff (Fine : Item → Prop) (before items : List Item) :
    AcceptAll (fun _ item => Fine item) before items ↔ ∀ item ∈ items, Fine item := by
  induction items generalizing before with
  | nil => simp [AcceptAll]
  | cons item items ih => simp [AcceptAll, ih]

theorem fold_invariant (Invariant : State → List Item → Prop)
    (preserved : ∀ state before item next, Invariant state before →
      step state item = .ok next → Invariant next (before ++ [item]))
    {state finish : State} {before items : List Item} (initial : Invariant state before)
    (returned : items.foldlM step state = .ok finish) :
    Invariant finish (before ++ items) := by
  induction items generalizing state before with
  | nil =>
      cases returned
      simpa using initial
  | cons item items ih =>
      obtain ⟨next, stepped, remaining⟩ := fold_cons_eq_ok.mp returned
      have middle := ih (preserved state before item next initial stepped) remaining
      simpa using middle

theorem fold_returns_iff (Invariant : State → List Item → Prop)
    (Accept : List Item → Item → Prop)
    (preserved : ∀ state before item next, Invariant state before →
      step state item = .ok next → Invariant next (before ++ [item]))
    (accepts : ∀ state before item, Invariant state before →
      ((∃ next, step state item = .ok next) ↔ Accept before item))
    {state : State} {before items : List Item} (initial : Invariant state before) :
    (∃ finish, items.foldlM step state = .ok finish) ↔ AcceptAll Accept before items := by
  induction items generalizing state before with
  | nil => exact ⟨fun _ => trivial, fun _ => ⟨state, rfl⟩⟩
  | cons item items ih =>
      constructor
      · rintro ⟨finish, returned⟩
        obtain ⟨next, stepped, remaining⟩ := fold_cons_eq_ok.mp returned
        exact ⟨(accepts state before item initial).mp ⟨next, stepped⟩,
          (ih (preserved state before item next initial stepped)).mp ⟨finish, remaining⟩⟩
      · rintro ⟨head, tail⟩
        obtain ⟨next, stepped⟩ := (accepts state before item initial).mpr head
        obtain ⟨finish, remaining⟩ :=
          (ih (preserved state before item next initial stepped)).mpr tail
        exact ⟨finish, fold_cons_eq_ok.mpr ⟨next, stepped, remaining⟩⟩

theorem fold_error (Invariant : State → List Item → Prop) (Allowed : Error → Prop)
    (preserved : ∀ state before item next, Invariant state before →
      step state item = .ok next → Invariant next (before ++ [item]))
    (thrown : ∀ state before item error, Invariant state before →
      step state item = .error error → Allowed error)
    (before : List Item) {state : State} {items : List Item} {error : Error}
    (initial : Invariant state before)
    (failed : items.foldlM step state = .error error) : Allowed error := by
  induction items generalizing state before with
  | nil => cases failed
  | cons item items ih =>
      cases stepped : step state item with
      | error raised =>
          have same : raised = error := by
            simpa [List.foldlM_cons, stepped, Bind.bind, Except.bind] using failed
          exact same ▸ thrown state before item raised initial stepped
      | ok next =>
          refine ih (before ++ [item]) (preserved state before item next initial stepped) ?_
          simpa [List.foldlM_cons, stepped, Bind.bind, Except.bind] using failed

end ContestSystem.Lib.FallibleFold
