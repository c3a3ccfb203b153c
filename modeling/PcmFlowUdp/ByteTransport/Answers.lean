import Mathlib.Data.List.Basic
import Mathlib.Logic.Function.Basic

/-! # Machines that answer their inputs

A machine is a step function `σ → ι → ω × σ`: every input is answered, and may change the state. `after`
is the state that a list of inputs leads to and `transcript` lists the inputs with the answers given to
them. Two machines, or two runs of one machine, are compared through their transcripts:

* **`transcript_simulates`** — a machine whose steps are matched by those of another one answers as that
  one does;
* **`transcript_sublist`** — a machine that hands things on keeps their order if every step does;
* **`transcript_flow`** — and loses none of them as long as it has room;
* **`transcript_purge`** — inputs that change nothing an observer depends on may be removed from a run,
  and the observer sees the same answers;
* **`family_isolated`** — machines that share a memory which makes no difference to their answers and
  states run as each of them would alone;
* **`checked_family`** — and if none of them fails a check, the family does not. -/

namespace ByteTransport

section Machine

variable {σ ι ω : Type*} (step : σ → ι → ω × σ)

/-- The state that a list of inputs leads to. -/
def after (s : σ) : List ι → σ
  | [] => s
  | i :: is => after (step s i).2 is

/-- The inputs, each with its answer. -/
def transcript (s : σ) : List ι → List (ι × ω)
  | [] => []
  | i :: is => (i, (step s i).1) :: transcript (step s i).2 is

/-- No input, no step. -/
@[simp] theorem after_nil (s : σ) : after step s [] = s := rfl

/-- The first input, then the others. -/
@[simp] theorem after_cons (s : σ) (i : ι) (is : List ι) :
    after step s (i :: is) = after step (step s i).2 is := rfl

/-- No input, no answer. -/
@[simp] theorem transcript_nil (s : σ) : transcript step s [] = [] := rfl

/-- The first answer, then the others. -/
@[simp] theorem transcript_cons (s : σ) (i : ι) (is : List ι) :
    transcript step s (i :: is) = (i, (step s i).1) :: transcript step (step s i).2 is := rfl

end Machine

/-- A transcript lists the inputs. -/
theorem fst_mem_of_mem_transcript {σ ι ω : Type*} {step : σ → ι → ω × σ} {s : σ} {is : List ι} {e : ι × ω}
    (he : e ∈ transcript step s is) : e.1 ∈ is := by
  induction is generalizing s with
  | nil => exact absurd he List.not_mem_nil
  | cons i is ih =>
    rcases List.mem_cons.mp he with rfl | he
    · exact List.mem_cons_self
    · exact List.mem_cons_of_mem _ (ih he)

/-- What holds of every step holds of every entry of a transcript. -/
theorem forall_mem_transcript_of {σ ι ω : Type*} {step : σ → ι → ω × σ} {ok : ι → Prop} {P : ι → ω → Prop}
    (hstep : ∀ s i, ok i → P i (step s i).1) (s : σ) {is : List ι} (his : ∀ i ∈ is, ok i) :
    ∀ e ∈ transcript step s is, P e.1 e.2 := by
  induction is generalizing s with
  | nil => exact fun e he => absurd he List.not_mem_nil
  | cons i is ih =>
    intro e he
    rcases List.mem_cons.mp he with rfl | he
    · exact hstep s i (his i List.mem_cons_self)
    · exact ih _ (fun j hj => his j (List.mem_cons_of_mem _ hj)) e he

/-- What is read off the entries of a transcript may be read off the steps. -/
theorem transcript_flatMap {σ ι ω β : Type*} {step : σ → ι → ω × σ} {f g : ι × ω → List β}
    (hstep : ∀ s i, f (i, (step s i).1) = g (i, (step s i).1)) (s : σ) (is : List ι) :
    (transcript step s is).flatMap f = (transcript step s is).flatMap g := by
  induction is generalizing s with
  | nil => rfl
  | cons i is ih => rw [transcript_cons, List.flatMap_cons, List.flatMap_cons, hstep, ih]

/-- The transcript of a machine whose steps are checked and the state at its end, `none` if a check fails. -/
def checked {σ ι ω : Type*} (step? : σ → ι → Option (ω × σ)) (s : σ) : List ι → Option (List (ι × ω) × σ)
  | [] => some ([], s)
  | i :: is => (step? s i).bind fun t => (checked step? t.2 is).map fun rest => ((i, t.1) :: rest.1, rest.2)

/-- A step that passes its checks, and a run that does after it. -/
theorem checked_cons {σ ι ω : Type*} {step? : σ → ι → Option (ω × σ)} {s s₁ s' : σ} {i : ι} {o : ω} {is : List ι}
    {es : List (ι × ω)} (hstep : step? s i = some (o, s₁)) (hrun : checked step? s₁ is = some (es, s')) :
    checked step? s (i :: is) = some ((i, o) :: es, s') := by
  rw [checked, hstep, Option.bind_some, hrun]
  rfl

/-! ## Simulation -/

/-- **The simulation rule.** If every step of a machine is matched by the step of another one on the same
input, in the answer and in the state reached, so is every run. -/
theorem transcript_simulates {σ τ ι ω ω' : Type*} {step : σ → ι → ω × σ} {step' : τ → ι → ω' × τ}
    {R : σ → τ → Prop} {f : ω' → ω}
    (hstep : ∀ s t i, R s t → (step s i).1 = f (step' t i).1 ∧ R (step s i).2 (step' t i).2)
    {s : σ} {t : τ} (h : R s t) (is : List ι) :
    transcript step s is = (transcript step' t is).map (Prod.map id f) ∧
      R (after step s is) (after step' t is) := by
  induction is generalizing s t with
  | nil => exact ⟨rfl, h⟩
  | cons i is ih =>
    obtain ⟨hanswer, hrel⟩ := hstep s t i h
    obtain ⟨hrest, hend⟩ := ih hrel
    refine ⟨?_, hend⟩
    rw [transcript_cons, transcript_cons, List.map_cons, hrest, hanswer]
    rfl

/-- The simulation rule for the inputs that meet a condition. -/
theorem transcript_simulates_of {σ τ ι ω ω' : Type*} {step : σ → ι → ω × σ} {step' : τ → ι → ω' × τ}
    {R : σ → τ → Prop} {f : ω' → ω} {ok : ι → Prop}
    (hstep : ∀ s t i, ok i → R s t →
      (step s i).1 = f (step' t i).1 ∧ R (step s i).2 (step' t i).2)
    {s : σ} {t : τ} (h : R s t) {is : List ι} (his : ∀ i ∈ is, ok i) :
    transcript step s is = (transcript step' t is).map (Prod.map id f) ∧
      R (after step s is) (after step' t is) := by
  induction is generalizing s t with
  | nil => exact ⟨rfl, h⟩
  | cons i is ih =>
    obtain ⟨hanswer, hrel⟩ := hstep s t i (his i List.mem_cons_self) h
    obtain ⟨hrest, hend⟩ := ih hrel fun j hj => his j (List.mem_cons_of_mem _ hj)
    refine ⟨?_, hend⟩
    rw [transcript_cons, transcript_cons, List.map_cons, hrest, hanswer]
    rfl

/-- **The rule for a past that does not show.** If related states give the same answers and stay related, and
one input makes two states related and is answered alike, then no run that begins with that input tells them
apart. -/
theorem transcript_forgets {σ ι ω : Type*} (step : σ → ι → ω × σ) (R : σ → σ → Prop) (ok : ι → Prop)
    (hstep : ∀ s t i, ok i → R s t → (step s i).1 = (step t i).1 ∧ R (step s i).2 (step t i).2) {s t : σ} {b : ι}
    (hfirst : (step s b).1 = (step t b).1 ∧ R (step s b).2 (step t b).2) {is : List ι} (his : ∀ i ∈ is, ok i) :
    transcript step s (b :: is) = transcript step t (b :: is) := by
  obtain ⟨hanswer, hrel⟩ := hfirst
  obtain ⟨hrun, -⟩ := transcript_simulates_of (f := id) hstep hrel his
  rw [transcript_cons, transcript_cons, hanswer, hrun, Prod.map_id, List.map_id]

/-! ## What goes through a machine -/

/-- The simulation rule for a machine whose steps are checked. If related states pass the checks of a step
together, with the same answer, and stay related, they pass the checks of a run together and have the same
transcript. -/
theorem checked_simulates {σ τ ι ω : Type*} {step? : σ → ι → Option (ω × σ)} {step?' : τ → ι → Option (ω × τ)}
    {R : σ → τ → Prop}
    (hstep : ∀ s t i, R s t → ∃ o s' t', step? s i = some (o, s') ∧ step?' t i = some (o, t') ∧ R s' t')
    {s : σ} {t : τ} (h : R s t) (is : List ι) :
    ∃ es s' t', checked step? s is = some (es, s') ∧ checked step?' t is = some (es, t') ∧ R s' t' := by
  induction is generalizing s t with
  | nil => exact ⟨[], s, t, rfl, rfl, h⟩
  | cons i is ih =>
    obtain ⟨o, s₁, t₁, hs, ht, hrel⟩ := hstep s t i h
    obtain ⟨es, s', t', hes, het, hend⟩ := ih hrel
    exact ⟨(i, o) :: es, s', t', checked_cons hs hes, checked_cons ht het, hend⟩

/-- **The rule for flows.** Of a machine that holds some things, takes things in and gives things out: if no
step makes anything up or changes the order, no run does. -/
theorem transcript_sublist {σ ι ω β : Type*} {step : σ → ι → ω × σ} {held : σ → List β}
    {taken given : ι × ω → List β}
    (hstep : ∀ s i, List.Sublist (given (i, (step s i).1) ++ held (step s i).2)
      (held s ++ taken (i, (step s i).1))) (s : σ) (is : List ι) :
    List.Sublist ((transcript step s is).flatMap given ++ held (after step s is))
      (held s ++ (transcript step s is).flatMap taken) := by
  induction is generalizing s with
  | nil => simp
  | cons i is ih =>
    rw [transcript_cons, after_cons, List.flatMap_cons, List.flatMap_cons, List.append_assoc]
    have hrest := (ih (step s i).2).append_left (given (i, (step s i).1))
    have hfirst := (hstep s i).append_right ((transcript step (step s i).2 is).flatMap taken)
    rw [List.append_assoc, List.append_assoc] at hfirst
    exact hrest.trans hfirst

/-- **The rule for flows with room.** Of a machine that keeps an invariant: if every step answers well, makes
nothing up, keeps the order, and loses nothing while there is room, so does every run. -/
theorem transcript_flow {σ ι ω β : Type*} {step : σ → ι → ω × σ} {ok : ι → Prop} (Inv : σ → Prop)
    (good : ι → ω → Prop) (held : σ → List β) (taken : ι → List β) (given : ω → List β) (Room : σ → ι → Prop)
    (hstep : ∀ s i, ok i → Inv s → Inv (step s i).2 ∧ good i (step s i).1 ∧
      List.Sublist (given (step s i).1 ++ held (step s i).2) (held s ++ taken i) ∧
      (Room s i → given (step s i).1 ++ held (step s i).2 = held s ++ taken i))
    {s : σ} (hs : Inv s) {is : List ι} (his : ∀ i ∈ is, ok i) :
    Inv (after step s is) ∧ (∀ e ∈ transcript step s is, good e.1 e.2) ∧
      List.Sublist ((transcript step s is).flatMap (fun e => given e.2) ++ held (after step s is))
        (held s ++ is.flatMap taken) ∧
      ((∀ past i, past ++ [i] <+: is → Room (after step s past) i) →
        (transcript step s is).flatMap (fun e => given e.2) ++ held (after step s is)
          = held s ++ is.flatMap taken) := by
  induction is generalizing s with
  | nil => exact ⟨hs, fun e he => absurd he List.not_mem_nil, by simp, fun _ => by simp⟩
  | cons i is ih =>
    obtain ⟨hinv, hgood, hsub, hexact⟩ := hstep s i (his i List.mem_cons_self) hs
    obtain ⟨hend, hgoods, hsubs, hexacts⟩ := ih hinv fun j hj => his j (List.mem_cons_of_mem _ hj)
    rw [transcript_cons, after_cons, List.flatMap_cons, List.flatMap_cons, List.append_assoc]
    refine ⟨hend, ?_, ?_, fun hroom => ?_⟩
    · intro e he
      rcases List.mem_cons.mp he with rfl | he
      · exact hgood
      · exact hgoods e he
    · -- the first step moves its part of what is held, the rest of the run the others
      have hlater := hsubs.append_left (given (step s i).1)
      have hfirst := hsub.append_right (is.flatMap taken)
      rw [List.append_assoc, List.append_assoc] at hfirst
      exact hlater.trans hfirst
    · have hfirst := hexact (hroom [] i ⟨is, rfl⟩)
      have hlater := hexacts fun past j hpast => hroom (i :: past) j (List.prefix_cons_inj i |>.mpr hpast)
      rw [hlater, ← List.append_assoc, hfirst, List.append_assoc]

/-! ## Inputs that an observer does not notice -/

/-- The purge rule for the inputs that meet a condition. -/
theorem transcript_purge_of {σ ι ω : Type*} {step : σ → ι → ω × σ} {V : σ → σ → Prop} {ok : ι → Prop}
    {seen keep : ι → Bool} (hseen : ∀ i, seen i = true → keep i = true)
    (hdrop : ∀ s t i, ok i → keep i = false → V s t → V (step s i).2 t)
    (hkeep : ∀ s t i, ok i → keep i = true → V s t →
      (seen i = true → (step s i).1 = (step t i).1) ∧ V (step s i).2 (step t i).2)
    {s t : σ} (h : V s t) {is : List ι} (his : ∀ i ∈ is, ok i) :
    (transcript step s is).filter (fun e => seen e.1)
      = (transcript step t (is.filter keep)).filter (fun e => seen e.1) := by
  induction is generalizing s t with
  | nil => rfl
  | cons i is ih =>
    have hi := his i List.mem_cons_self
    have hrest : ∀ j ∈ is, ok j := fun j hj => his j (List.mem_cons_of_mem _ hj)
    cases hk : keep i with
    | false =>
      -- an input that is not kept is not seen either
      have hs : seen i = false := by
        cases hs : seen i with
        | false => rfl
        | true => exact absurd (hseen i hs) (by rw [hk]; decide)
      rw [List.filter_cons_of_neg (by simp [hk]), transcript_cons,
        List.filter_cons_of_neg (by simp [hs])]
      exact ih (hdrop s t i hi hk h) hrest
    | true =>
      obtain ⟨hanswer, hview⟩ := hkeep s t i hi hk h
      rw [List.filter_cons_of_pos hk, transcript_cons, transcript_cons, List.filter_cons,
        List.filter_cons, ih hview hrest]
      cases hs : seen i with
      | false => simp
      | true => simp [hanswer hs]

/-- **The purge rule.** An observer sees the answers to the inputs `seen`; `View s t` says that the states
`s` and `t` are the same to it. If the inputs that are not kept leave the state the same to the observer,
and the kept ones take states that are the same to it to such states, with the same answers where it
looks, then the run and the run of the kept inputs alone look the same. -/
theorem transcript_purge {σ ι ω : Type*} {step : σ → ι → ω × σ} {V : σ → σ → Prop}
    {seen keep : ι → Bool} (hseen : ∀ i, seen i = true → keep i = true)
    (hdrop : ∀ s t i, keep i = false → V s t → V (step s i).2 t)
    (hkeep : ∀ s t i, keep i = true → V s t →
      (seen i = true → (step s i).1 = (step t i).1) ∧ V (step s i).2 (step t i).2)
    {s t : σ} (h : V s t) (is : List ι) :
    (transcript step s is).filter (fun e => seen e.1)
      = (transcript step t (is.filter keep)).filter (fun e => seen e.1) :=
  @transcript_purge_of σ ι ω step V (fun _ => True) seen keep hseen (fun s t i _ => hdrop s t i)
    (fun s t i _ => hkeep s t i) s t h is fun _ _ => trivial

/-- An observer that sees all inputs that are kept sees the run of these. -/
theorem transcript_purge_seen {σ ι ω : Type*} {step : σ → ι → ω × σ} {V : σ → σ → Prop} {ok : ι → Prop}
    {keep : ι → Bool} (hdrop : ∀ s t i, ok i → keep i = false → V s t → V (step s i).2 t)
    (hkeep : ∀ s t i, ok i → keep i = true → V s t →
      (step s i).1 = (step t i).1 ∧ V (step s i).2 (step t i).2)
    {s t : σ} (h : V s t) {is : List ι} (his : ∀ i ∈ is, ok i) :
    (transcript step s is).filter (fun e => keep e.1) = transcript step t (is.filter keep) := by
  rw [transcript_purge_of (fun _ hi => hi) hdrop
    (fun s t i hi hk hv => ⟨fun _ => (hkeep s t i hi hk hv).1, (hkeep s t i hi hk hv).2⟩) h his]
  exact List.filter_eq_self.mpr fun e he => (List.mem_filter.mp (fst_mem_of_mem_transcript he)).2

/-! ## Machines that share a memory -/

section Family

variable {κ σ μ ι ω : Type*} (step : σ → μ → ι → ω × σ × μ)

/-- One machine with a memory of its own. -/
def alone (s : σ × μ) (i : ι) : ω × σ × μ := step s.1 s.2 i

variable [DecidableEq κ]

/-- A family of machines over one memory; an input goes to one of them. -/
def family (s : (κ → σ) × μ) (i : κ × ι) : ω × (κ → σ) × μ :=
  let (o, s', m) := step (s.1 i.1) s.2 i.2
  (o, Function.update s.1 i.1 s', m)

/-- The inputs that go to machine `k`. -/
def inputsOf (k : κ) (is : List (κ × ι)) : List ι :=
  (is.filter fun i => i.1 = k).map Prod.snd

/-- What machine `k` was given and answered. -/
def transcriptOf (k : κ) (es : List ((κ × ι) × ω)) : List (ι × ω) :=
  (es.filter fun e => e.1.1 = k).map fun e => (e.1.2, e.2)

variable {step}

/-- **Isolation.** If the memory that the machines share makes no difference to the answer to an input or to
the state of the machine that is given it, every one of them answers and ends up as it does alone, in
whatever memory. -/
theorem family_isolated {ok : ι → Prop}
    (hmem : ∀ s m m' i, ok i →
      (step s m i).1 = (step s m' i).1 ∧ (step s m i).2.1 = (step s m' i).2.1)
    (k : κ) {is : List (κ × ι)} (hok : ∀ i ∈ is, ok i.2) (s : κ → σ) (m m' : μ) :
    transcriptOf k (transcript (family step) (s, m) is)
        = transcript (alone step) (s k, m') (inputsOf k is) ∧
      (after (family step) (s, m) is).1 k = (after (alone step) (s k, m') (inputsOf k is)).1 := by
  induction is generalizing s m m' with
  | nil => exact ⟨rfl, rfl⟩
  | cons i is ih =>
    obtain ⟨k', i⟩ := i
    have hoki : ok i := hok (k', i) List.mem_cons_self
    have hrest := ih fun j hj => hok j (List.mem_cons_of_mem _ hj)
    rcases eq_or_ne k' k with rfl | hne
    · -- the input goes to machine `k`, which finds another memory than when it runs alone
      obtain ⟨hanswer, hstate⟩ := hmem (s k') m m' i hoki
      obtain ⟨htr, hafter⟩ := hrest (Function.update s k' (step (s k') m i).2.1) (step (s k') m i).2.2
        (step (s k') m' i).2.2
      rw [Function.update_self, hstate] at htr hafter
      have hin : inputsOf k' ((k', i) :: is) = i :: inputsOf k' is := by simp [inputsOf]
      have hhead : ∀ es : List ((κ × ι) × ω), ∀ o : ω,
          transcriptOf k' (((k', i), o) :: es) = (i, o) :: transcriptOf k' es := fun es o => by
        simp [transcriptOf]
      rw [hin, transcript_cons, hhead, transcript_cons, after_cons, after_cons]
      refine ⟨?_, ?_⟩
      · show (i, (step (s k') m i).1) :: transcriptOf k' (transcript (family step)
            (Function.update s k' (step (s k') m i).2.1, (step (s k') m i).2.2) is) = _
        rw [hstate, htr, hanswer]
        rfl
      · show (after (family step)
          (Function.update s k' (step (s k') m i).2.1, (step (s k') m i).2.2) is).1 k' = _
        rw [hstate, hafter]
        rfl
    · -- the input goes to another machine
      obtain ⟨htr, hafter⟩ := hrest (Function.update s k' (step (s k') m i).2.1) (step (s k') m i).2.2 m'
      rw [Function.update_of_ne hne.symm] at htr hafter
      have hin : inputsOf k ((k', i) :: is) = inputsOf k is := by simp [inputsOf, hne]
      have hhead : ∀ es : List ((κ × ι) × ω), ∀ o : ω,
          transcriptOf k (((k', i), o) :: es) = transcriptOf k es := fun es o => by
        simp [transcriptOf, hne]
      rw [hin, transcript_cons, hhead, after_cons]
      exact ⟨htr, hafter⟩

/-- A family of machines whose steps are checked. -/
def checkedFamily (step? : σ → μ → ι → Option (ω × σ × μ)) (s : (κ → σ) × μ) (i : κ × ι) :
    Option (ω × (κ → σ) × μ) :=
  (step? (s.1 i.1) s.2 i.2).map fun t => (t.1, Function.update s.1 i.1 t.2.1, t.2.2)

/-- **Checked families.** If every machine passes its checks wherever its invariant holds, whatever is in the
memory, and keeps the invariant, a family of them passes all checks. -/
theorem checked_family {step? : σ → μ → ι → Option (ω × σ × μ)} (Inv : σ → Prop) (ok : ι → Prop)
    (hstep : ∀ s m i, ok i → Inv s → step? s m i = some (step s m i) ∧ Inv (step s m i).2.1)
    {s : κ → σ} (hs : ∀ k, Inv (s k)) (m : μ) {is : List (κ × ι)} (his : ∀ i ∈ is, ok i.2) :
    checked (checkedFamily step?) (s, m) is
      = some (transcript (family step) (s, m) is, after (family step) (s, m) is) := by
  induction is generalizing s m with
  | nil => rfl
  | cons i is ih =>
    obtain ⟨k, i⟩ := i
    obtain ⟨hcheck, hinv⟩ := hstep (s k) m i (his (k, i) List.mem_cons_self) (hs k)
    have hone : checkedFamily step? (s, m) (k, i) = some (family step (s, m) (k, i)) := by
      rw [checkedFamily, hcheck]
      rfl
    have hkept : ∀ k', Inv ((family step (s, m) (k, i)).2.1 k') := by
      intro k'
      show Inv (Function.update s k (step (s k) m i).2.1 k')
      rcases eq_or_ne k' k with rfl | hne
      · rw [Function.update_self]
        exact hinv
      · rw [Function.update_of_ne hne]
        exact hs k'
    rw [checked, hone, Option.bind_some, transcript_cons, after_cons,
      ih hkept _ fun j hj => his j (List.mem_cons_of_mem _ hj)]
    rfl

end Family

end ByteTransport
