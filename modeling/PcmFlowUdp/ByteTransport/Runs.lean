import Mathlib.Logic.Basic
import Mathlib.Data.List.Basic
import Mathlib.Data.List.Induction

/-! # Runs of a partial step function

A system is a step function `σ → ι → Option σ`; `none` means that the step does not complete. `run`
drives it through a list of inputs, and `Admissible` says that every step of the run meets a
condition on the input and the state before it. The induction rules turn one step into a whole
run:

* **`run_total`** — if every admissible step completes and keeps an invariant, every admissible run
  completes in a state of the invariant;
* **`run_history`**, **`run_complete`** — the same for an invariant on the inputs so far and the state;
* **`run_simulates`** — if every admissible step is matched by a step of an abstract machine, so is
  every admissible run;
* **`run_inserts`** — inputs that a run does not notice can be inserted anywhere (`Inserts`);
* **`admissible_iff_prefixes`** — a run is admissible exactly when every input of it meets the condition in
  the state that the inputs before it lead to; `admissible_iff_at` if the condition is about one input;
* **`admissible_iff_good_states`** — if a step completes in a good state exactly when it is
  admissible, a run is admissible exactly when every state it passes through is good. -/

namespace ByteTransport

variable {σ ι : Type*}

/-- Drive a partial step function through a list of inputs. -/
def run (step : σ → ι → Option σ) (s : σ) : List ι → Option σ
  | [] => some s
  | i :: is => (step s i).bind fun s' => run step s' is

/-- Every step of the run meets `ok` in the state before it. -/
def Admissible (step : σ → ι → Option σ) (ok : σ → ι → Prop) (s : σ) : List ι → Prop
  | [] => True
  | i :: is => ok s i ∧ ∀ s', step s i = some s' → Admissible step ok s' is

variable {step : σ → ι → Option σ} {ok : σ → ι → Prop}

/-- Whether a concrete run is admissible can be computed. -/
instance Admissible.decidable [∀ s i, Decidable (ok s i)] (s : σ) (is : List ι) :
    Decidable (Admissible step ok s is) :=
  match is with
  | [] => isTrue trivial
  | i :: is =>
      match h : step s i with
      | none => decidable_of_iff (ok s i) ⟨fun hok => ⟨hok, by simp [h]⟩, fun hadm => hadm.1⟩
      | some s' =>
          have := Admissible.decidable s' is
          decidable_of_iff (ok s i ∧ Admissible step ok s' is) (by simp [Admissible, h])

/-- No input, no step. -/
@[simp] theorem run_nil (s : σ) : run step s [] = some s := rfl

/-- The first step, then the others. -/
theorem run_cons_of_step {s s' : σ} {i : ι} (h : step s i = some s') (is : List ι) :
    run step s (i :: is) = run step s' is := by
  rw [run, h, Option.bind_some]

/-- A run over `is ++ js` is the run over `js` from where the run over `is` ended. -/
theorem run_append (s : σ) (is js : List ι) :
    run step s (is ++ js) = (run step s is).bind fun s' => run step s' js := by
  induction is generalizing s with
  | nil => rfl
  | cons i is ih =>
    rw [List.cons_append, run, run]
    cases step s i with
    | none => rfl
    | some s' => exact ih s'

/-- The last step of a run. -/
theorem run_snoc (s : σ) (is : List ι) (i : ι) :
    run step s (is ++ [i]) = (run step s is).bind fun s' => step s' i := by
  rw [run_append]
  congr 1
  funext s'
  rw [run]
  cases step s' i <;> rfl

/-- If a run completes, so does every part that it begins with. -/
theorem run_prefix {s s' : σ} {past is : List ι} (h : run step s is = some s') (hpast : past <+: is) :
    ∃ s₁, run step s past = some s₁ := by
  obtain ⟨rest, rfl⟩ := hpast
  rw [run_append] at h
  obtain ⟨s₁, h₁, -⟩ := Option.bind_eq_some_iff.mp h
  exact ⟨s₁, h₁⟩

/-- A machine that carries more with it runs like the one inside it. -/
theorem run_map {τ : Type*} {step' : τ → ι → Option τ} {f : τ → σ}
    (hstep : ∀ t i, (step' t i).map f = step (f t) i) (t : τ) (is : List ι) :
    (run step' t is).map f = run step (f t) is := by
  induction is generalizing t with
  | nil => rfl
  | cons i is ih =>
    rw [run, run, ← hstep t i]
    cases step' t i with
    | none => rfl
    | some t' => exact ih t'

/-- A run over `is ++ js` is admissible if both parts are. -/
theorem admissible_append (s : σ) (is js : List ι) :
    Admissible step ok s (is ++ js) ↔
      Admissible step ok s is ∧ ∀ s', run step s is = some s' → Admissible step ok s' js := by
  induction is generalizing s with
  | nil => simp [Admissible]
  | cons i is ih =>
    constructor
    · rintro ⟨hok, hrest⟩
      refine ⟨⟨hok, fun s₁ h₁ => ((ih s₁).mp (hrest s₁ h₁)).1⟩, fun s' hrun => ?_⟩
      obtain ⟨s₁, h₁, hrun'⟩ := Option.bind_eq_some_iff.mp hrun
      exact ((ih s₁).mp (hrest s₁ h₁)).2 s' hrun'
    · rintro ⟨⟨hok, hrest⟩, hjs⟩
      refine ⟨hok, fun s₁ h₁ => (ih s₁).mpr ⟨hrest s₁ h₁, fun s' hrun => hjs s' ?_⟩⟩
      rw [run_cons_of_step h₁, hrun]

/-- **Admissible runs, input by input.** -/
theorem admissible_iff_prefixes {s : σ} {is : List ι} :
    Admissible step ok s is ↔
      ∀ past i, past ++ [i] <+: is → ∀ s', run step s past = some s' → ok s' i := by
  induction is generalizing s with
  | nil => simp [Admissible]
  | cons i is ih =>
    constructor
    · rintro ⟨hok, hrest⟩ past j hpast s' hrun
      cases past with
      | nil =>
        obtain rfl := (List.cons_prefix_cons.mp hpast).1
        rw [run_nil, Option.some.injEq] at hrun
        rwa [← hrun]
      | cons k past =>
        obtain ⟨rfl, htail⟩ := List.cons_prefix_cons.mp hpast
        obtain ⟨s₁, h₁, hrun₁⟩ := Option.bind_eq_some_iff.mp hrun
        exact ih.mp (hrest s₁ h₁) past j htail s' hrun₁
    · intro h
      refine ⟨h [] i (List.cons_prefix_cons.mpr ⟨rfl, List.nil_prefix⟩) s rfl, fun s₁ h₁ => ?_⟩
      refine ih.mpr fun past j hpast s' hrun => ?_
      refine h (i :: past) j (List.cons_prefix_cons.mpr ⟨rfl, hpast⟩) s' ?_
      rw [run_cons_of_step h₁, hrun]

/-- **One input.** If the condition is about the input `i` alone, where it says `R` of the state, the run is
admissible exactly when `R` holds wherever `i` is given. -/
theorem admissible_iff_at {s : σ} {is : List ι} (i : ι) {R : σ → Prop} (hi : ∀ s, ok s i ↔ R s)
    (hother : ∀ s j, j ≠ i → ok s j) :
    Admissible step ok s is ↔ ∀ past, past ++ [i] <+: is → ∀ s', run step s past = some s' → R s' := by
  rw [admissible_iff_prefixes]
  constructor
  · intro h past hpast s' hrun
    exact (hi s').mp (h past i hpast s' hrun)
  · intro h past j hpast s' hrun
    by_cases hij : j = i
    · subst hij
      exact (hi s').mpr (h past hpast s' hrun)
    · exact hother s' j hij

/-- **Invariants with a history.** If every step keeps `P` of the inputs so far and the state, it holds
where a run ends. -/
theorem run_history {P : List ι → σ → Prop} {Q : ι → Prop}
    (hstep : ∀ past s i s', P past s → Q i → step s i = some s' → P (past ++ [i]) s')
    {s s' : σ} (hs : P [] s) {is : List ι} (hQ : ∀ i ∈ is, Q i) (hrun : run step s is = some s') :
    P is s' := by
  induction is using List.reverseRecOn generalizing s' with
  | nil =>
    rw [run_nil, Option.some.injEq] at hrun
    rwa [← hrun]
  | append_singleton is i ih =>
    rw [run_snoc] at hrun
    obtain ⟨s₁, h₁, hlast⟩ := Option.bind_eq_some_iff.mp hrun
    have hpast : P is s₁ := ih (fun j hj => hQ j (List.mem_append_left _ hj)) h₁
    exact hstep is s₁ i s' hpast (hQ i (by simp)) hlast

/-- **Completion with a history.** If every step of a run completes and keeps `P` of the inputs so far and
the state, the run completes. -/
theorem run_complete {P : List ι → σ → Prop} {is : List ι}
    (hstep : ∀ past i s, past ++ [i] <+: is → P past s → ∃ s', step s i = some s' ∧ P (past ++ [i]) s')
    {s : σ} (hs : P [] s) : ∃ s', run step s is = some s' ∧ P is s' := by
  induction is using List.reverseRecOn with
  | nil => exact ⟨s, rfl, hs⟩
  | append_singleton is i ih =>
    obtain ⟨s₁, h₁, hP⟩ := ih fun past j s hpast =>
      hstep past j s (hpast.trans (List.prefix_append _ _))
    obtain ⟨s', hlast, hP'⟩ := hstep is i s₁ List.prefix_rfl hP
    exact ⟨s', by rw [run_snoc, h₁, Option.bind_some, hlast], hP'⟩

/-- A condition that every step meets makes every run admissible. -/
theorem admissible_of_forall (h : ∀ s i, ok s i) (s : σ) (is : List ι) :
    Admissible step ok s is := by
  induction is generalizing s with
  | nil => trivial
  | cons i is ih => exact ⟨h s i, fun s' _ => ih s'⟩

/-- A condition on the inputs alone that all of them meet makes the run admissible. -/
theorem admissible_of_mem {P : ι → Prop} {is : List ι} (h : ∀ i ∈ is, P i) (s : σ) :
    Admissible step (fun _ i => P i) s is := by
  induction is generalizing s with
  | nil => trivial
  | cons i is ih =>
    exact ⟨h i List.mem_cons_self, fun s' _ => ih (fun j hj => h j (List.mem_cons_of_mem _ hj)) s'⟩

/-- Two conditions that every step of a run meets. -/
theorem Admissible.and {ok' : σ → ι → Prop} {s : σ} {is : List ι} (h : Admissible step ok s is)
    (h' : Admissible step ok' s is) : Admissible step (fun s i => ok s i ∧ ok' s i) s is := by
  induction is generalizing s with
  | nil => trivial
  | cons i is ih => exact ⟨⟨h.1, h'.1⟩, fun s' hs' => ih (h.2 s' hs') (h'.2 s' hs')⟩

/-- **The invariant rule.** If every admissible step completes and keeps `P`, every admissible run
completes in a state of `P`. -/
theorem run_total {P : σ → Prop}
    (hstep : ∀ s i, P s → ok s i → ∃ s', step s i = some s' ∧ P s')
    {s : σ} (hs : P s) {is : List ι} (hok : Admissible step ok s is) :
    ∃ s', run step s is = some s' ∧ P s' := by
  induction is generalizing s with
  | nil => exact ⟨s, rfl, hs⟩
  | cons i is ih =>
    obtain ⟨s₁, h₁, hinv₁⟩ := hstep s i hs hok.1
    obtain ⟨s', hrun, hinv'⟩ := ih hinv₁ (hok.2 s₁ h₁)
    exact ⟨s', by rw [run_cons_of_step h₁, hrun], hinv'⟩

/-- **The simulation rule.** If every admissible step completes and keeps a relation to the step that an
abstract machine makes on the same input, every admissible run completes, related to the abstract
run. -/
theorem run_simulates {τ : Type*} {R : σ → τ → Prop} {f : τ → ι → τ}
    (hstep : ∀ s t i, R s t → ok s i → ∃ s', step s i = some s' ∧ R s' (f t i))
    {s : σ} {t : τ} (hs : R s t) {is : List ι} (hok : Admissible step ok s is) :
    ∃ s', run step s is = some s' ∧ R s' (is.foldl f t) := by
  induction is generalizing s t with
  | nil => exact ⟨s, rfl, hs⟩
  | cons i is ih =>
    obtain ⟨s₁, h₁, hrel₁⟩ := hstep s t i hs hok.1
    obtain ⟨s', hrun, hrel'⟩ := ih hrel₁ (hok.2 s₁ h₁)
    exact ⟨s', by rw [run_cons_of_step h₁, hrun], hrel'⟩

/-- The inputs `js` are those of `is` with others inserted, each `silent` in the state in which the run over
`js` from `s` takes it. -/
inductive Inserts (step : σ → ι → Option σ) (silent : σ → ι → Prop) : σ → List ι → List ι → Prop
  | nil (s : σ) : Inserts step silent s [] []
  | keep {s s' : σ} {i : ι} {is js : List ι} (hstep : step s i = some s')
      (rest : Inserts step silent s' is js) : Inserts step silent s (i :: is) (i :: js)
  | insert {s s' : σ} {i : ι} {is js : List ι} (hsilent : silent s i) (hstep : step s i = some s')
      (rest : Inserts step silent s' is js) : Inserts step silent s is (i :: js)

/-- **The rule for inserted inputs.** Let every step keep `W`, take related states to related states, and, if it
is silent, relate its state to the next. Then inserted silent steps do not show in the relation. -/
theorem run_inserts {W : σ → Prop} {R : σ → σ → Prop} {silent : σ → ι → Prop}
    (hkeep : ∀ s i, W s → ∃ s', step s i = some s' ∧ W s')
    (hrel : ∀ s t i, R s t → Option.Rel R (step s i) (step t i))
    (hsilent : ∀ s i s', W s → silent s i → step s i = some s' → R s s')
    (htrans : ∀ s t u, R s t → R t u → R s u)
    {s t s' : σ} (hs : R s t) (ht : W t) {is js : List ι} (hjs : Inserts step silent t is js)
    (hrun : run step s is = some s') : ∃ t', run step t js = some t' ∧ R s' t' := by
  have hnext : ∀ s i s', W s → step s i = some s' → W s' := by
    intro s i s' hw hstep
    obtain ⟨s₁, h₁, hw₁⟩ := hkeep s i hw
    rw [h₁, Option.some.injEq] at hstep
    rwa [← hstep]
  induction hjs generalizing s with
  | nil t =>
    rw [run_nil, Option.some.injEq] at hrun
    exact ⟨t, rfl, hrun ▸ hs⟩
  | @keep t t₁ i is js hstep rest ih =>
    obtain ⟨s₁, h₁, hrun₁⟩ := Option.bind_eq_some_iff.mp hrun
    have hboth := hrel s t i hs
    rw [h₁, hstep] at hboth
    cases hboth with
    | some hs₁ =>
      rw [run_cons_of_step hstep]
      exact ih hs₁ (hnext t i t₁ ht hstep) hrun₁
  | @insert t t₁ i is js hi hstep rest ih =>
    rw [run_cons_of_step hstep]
    exact ih (htrans s t t₁ hs (hsilent t i t₁ ht hi hstep)) (hnext t i t₁ ht hstep) hrun

/-- **Exactness of a step condition.** Let every step from a good state, made within `pre`, complete in a
state that keeps `Inv`, and let that state be good exactly when the step was admissible. Then a run is
admissible exactly when every state it passes through is good. -/
theorem admissible_iff_good_states {pre : σ → ι → Prop} {Inv Good : σ → Prop}
    (hstep : ∀ s i, Inv s → Good s → pre s i →
      ∃ s', step s i = some s' ∧ Inv s' ∧ (Good s' ↔ ok s i))
    {s : σ} (hs : Inv s) (hgood : Good s) {is : List ι} (hpre : Admissible step pre s is) :
    Admissible step ok s is ↔
      ∀ js, js <+: is → ∃ s', run step s js = some s' ∧ Good s' := by
  induction is generalizing s with
  | nil =>
    constructor
    · intro _ js hjs
      rw [List.prefix_nil] at hjs
      exact ⟨s, by rw [hjs, run_nil], hgood⟩
    · intro _
      trivial
  | cons i is ih =>
    obtain ⟨s₁, h₁, hinv₁, hiff⟩ := hstep s i hs hgood hpre.1
    have hpre₁ := hpre.2 s₁ h₁
    constructor
    · rintro ⟨hoki, hrest⟩ js hjs
      have hgood₁ : Good s₁ := hiff.mpr hoki
      cases js with
      | nil => exact ⟨s, rfl, hgood⟩
      | cons j js =>
        obtain ⟨rfl, hjs'⟩ := List.cons_prefix_cons.mp hjs
        obtain ⟨s', hrun, hg⟩ := (ih hinv₁ hgood₁ hpre₁).mp (hrest s₁ h₁) js hjs'
        exact ⟨s', by rw [run_cons_of_step h₁, hrun], hg⟩
    · intro hall
      have hgood₁ : Good s₁ := by
        obtain ⟨s', hrun, hg⟩ := hall [i] (List.cons_prefix_cons.mpr ⟨rfl, List.nil_prefix⟩)
        rw [run_cons_of_step h₁, run_nil, Option.some.injEq] at hrun
        rwa [hrun]
      refine ⟨hiff.mp hgood₁, fun s₂ h₂ => ?_⟩
      rw [h₁, Option.some.injEq] at h₂
      subst h₂
      -- the prefixes of the rest are those of the run without its first step
      refine (ih hinv₁ hgood₁ hpre₁).mpr fun js hjs => ?_
      obtain ⟨s', hrun, hg⟩ := hall (i :: js) (List.cons_prefix_cons.mpr ⟨rfl, hjs⟩)
      rw [run_cons_of_step h₁] at hrun
      exact ⟨s', hrun, hg⟩

end ByteTransport
