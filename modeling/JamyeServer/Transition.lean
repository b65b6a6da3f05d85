import Mathlib.Data.List.Basic

/-!
# Runs of a transition system

A system steps by a partial function of its state and of a label. A run keeps the states it has passed with the
labels it took there, the latest first, so that a later step can be related to what happened before it.
-/

namespace JamyeServer.Transition

variable {S L : Type}

/-- The runs whose steps all satisfy `cond`, which may look at the history of the step. -/
inductive RunWhere (init : S → Prop) (step : S → L → Option S) (cond : List (S × L) → S → L → Prop) :
    List (S × L) → S → Prop
  | start {s : S} : init s → RunWhere init step cond [] s
  | step {h : List (S × L)} {s s' : S} (l : L) :
      RunWhere init step cond h s → cond h s l → step s l = some s' → RunWhere init step cond ((s, l) :: h) s'

/-- All runs. -/
def Run (init : S → Prop) (step : S → L → Option S) : List (S × L) → S → Prop :=
  RunWhere init step fun _ _ _ => True

/-- The states that some run reaches. -/
def Reachable (init : S → Prop) (step : S → L → Option S) (s : S) : Prop := ∃ h, Run init step h s

section Rules

variable {init : S → Prop} {step : S → L → Option S} {cond : List (S × L) → S → L → Prop}
  {h : List (S × L)} {s s' : S}

/-- A fact about histories holds along every run if it holds at the start and every step keeps it. -/
theorem RunWhere.invariant {I : List (S × L) → S → Prop} (hinit : ∀ s, init s → I [] s)
    (hstep : ∀ h s l s', RunWhere init step cond h s → I h s → cond h s l → step s l = some s' → I ((s, l) :: h) s')
    (hrun : RunWhere init step cond h s) : I h s := by
  induction hrun with
  | start hs => exact hinit _ hs
  | step l hrun hc hs ih => exact hstep _ _ l _ hrun ih hc hs

lemma RunWhere.mono {cond' : List (S × L) → S → L → Prop} (hcond : ∀ h s l, cond h s l → cond' h s l)
    (hrun : RunWhere init step cond h s) : RunWhere init step cond' h s := by
  induction hrun with
  | start hs => exact .start hs
  | step l _ hc hs ih => exact .step l ih (hcond _ _ l hc) hs

lemma Run.next {l : L} (hrun : Run init step h s) (hs : step s l = some s') : Run init step ((s, l) :: h) s' :=
  .step l hrun trivial hs

/-- A fact about states holds of every reachable state if it holds at the start and every step keeps it. -/
theorem Reachable.invariant {I : S → Prop} (hinit : ∀ s, init s → I s)
    (hstep : ∀ s l s', I s → step s l = some s' → I s') (hs : Reachable init step s) : I s := by
  obtain ⟨h, hrun⟩ := hs
  exact RunWhere.invariant (I := fun _ s => I s) hinit (fun _ s l s' _ hI _ he => hstep s l s' hI he) hrun

end Rules

section Evaluation

variable (step : S → L → Option S)

/-- Takes the steps of the list one after another, as long as they pass the check. -/
def execWhere (check : S → L → Bool) (s : S) : List L → Option S
  | [] => some s
  | l :: ls => if check s l then (step s l).bind fun s' => execWhere check s' ls else none

/-- Takes the steps of the list one after another. -/
def exec (s : S) (ls : List L) : Option S := execWhere step (fun _ _ => true) s ls

/-- The history that they leave behind them. -/
def history (s : S) : List L → List (S × L)
  | [] => []
  | l :: ls => ((step s l).map fun s' => history s' ls).getD [] ++ [(s, l)]

variable {step} {init : S → Prop} {cond : List (S × L) → S → L → Prop} {check : S → L → Bool}
  {h : List (S × L)} {s s' : S} {ls : List L}

theorem RunWhere.execWhere (hcheck : ∀ h s l, check s l = true → cond h s l) (hrun : RunWhere init step cond h s)
    (he : execWhere step check s ls = some s') : RunWhere init step cond (history step s ls ++ h) s' := by
  induction ls generalizing h s with
  | nil =>
    cases he
    exact hrun
  | cons l ls ih =>
    simp only [Transition.execWhere] at he
    split_ifs at he with hl
    obtain ⟨t, ht, he⟩ := Option.bind_eq_some_iff.mp he
    have := ih (.step l hrun (hcheck h s l hl) ht) he
    simpa [history, ht] using this

theorem Run.exec (hrun : Run init step h s) (he : Transition.exec step s ls = some s') :
    Run init step (history step s ls ++ h) s' :=
  RunWhere.execWhere (fun _ _ _ _ => trivial) hrun he

lemma reachable_of_exec (hinit : init s) (he : Transition.exec step s ls = some s') : Reachable init step s' :=
  ⟨_, Run.exec (.start hinit) he⟩

lemma exec_cons (l : L) (ls : List L) : exec step s (l :: ls) = (step s l).bind fun s' => exec step s' ls := rfl

end Evaluation

section Tables

variable {α : Type} {xs : List α} {i j : Nat} {a b : α}

/-- An entry of a table after one entry was written. -/
lemma getElem?_of_set (h : (xs.set i a)[j]? = some b) : j = i ∧ b = a ∨ j ≠ i ∧ xs[j]? = some b := by
  by_cases hi : j = i
  · subst hi
    rw [List.getElem?_set, if_pos rfl] at h
    split_ifs at h
    exact .inl ⟨rfl, (Option.some.inj h).symm⟩
  · rw [List.getElem?_set_ne (Ne.symm hi)] at h
    exact .inr ⟨hi, h⟩

/-- An entry of a table after one entry was added at its end. -/
lemma getElem?_of_snoc (h : (xs ++ [a])[j]? = some b) : j = xs.length ∧ b = a ∨ xs[j]? = some b := by
  rw [List.getElem?_append] at h
  split_ifs at h with hj
  · exact .inr h
  · obtain ⟨hlt, he⟩ := List.getElem?_eq_some_iff.mp h
    simp only [List.length_singleton, Nat.lt_one_iff] at hlt
    refine .inl ⟨by omega, ?_⟩
    simpa [hlt] using he.symm

end Tables

end JamyeServer.Transition
