import ColonySearch.Proofs.Outcome
import ColonySearch.Proofs.Settings.PlainText
import ColonySearch.Settings.Sources

/-!
# The library that the program runs with

It does what is documented of settings libraries. What a source gives is said by membership, so that neither the order of its entries nor the case of their names matters; only in a text of assignments a later line comes before an earlier one. This holds for sources that do not spell one name in two ways.
-/

namespace ColonySearch.Settings

open Outcome

variable {f : Field} {raw : Raw}

/-! ### What a source gives -/

theorem lower_name (f : Field) : Text.lower f.name = f.name := by
  cases f <;> decide +kernel

theorem Field.name_inj {f g : Field} : f.name = g.name ↔ f = g := by
  refine ⟨?_, congrArg Field.name⟩
  cases f <;> cases g <;> decide

theorem isNamed_name {f g : Field} : f.isNamed g.name = true ↔ f = g := by
  rw [Field.isNamed, lower_name, beq_iff_eq, Field.name_inj, eq_comm]

/-- Where no two entries pass the test, finding is no matter of order. -/
theorem find?_eq_some_iff_mem {α : Type} {p : α → Bool} {entries : List α} {a : α}
    (hone : ∀ b ∈ entries, ∀ c ∈ entries, p b = true → p c = true → b = c) :
    entries.find? p = some a ↔ a ∈ entries ∧ p a = true := by
  constructor
  · intro h
    exact ⟨List.mem_of_find?_eq_some h, List.find?_some h⟩
  · intro h
    obtain ⟨b, hb⟩ := Option.isSome_iff_exists.1 (List.find?_isSome.2 ⟨a, h⟩)
    rw [hb, hone b (List.mem_of_find?_eq_some hb) a h.1 (List.find?_some hb) h.2]

theorem argumentGiven_eq_some_iff {arguments : List (String × Raw)}
    (hone : ∀ a ∈ arguments, ∀ b ∈ arguments, f.isNamed a.1 = true → f.isNamed b.1 = true → a = b) :
    argumentGiven arguments f = some raw ↔ ∃ name, (name, raw) ∈ arguments ∧ f.isNamed name = true := by
  rw [argumentGiven, Option.map_eq_some_iff]
  constructor
  · intro hfound
    obtain ⟨⟨name, given⟩, hfound, rfl⟩ := hfound
    exact ⟨name, (find?_eq_some_iff_mem hone).1 hfound⟩
  · intro hgives
    obtain ⟨name, hmem⟩ := hgives
    exact ⟨(name, raw), (find?_eq_some_iff_mem hone).2 hmem, rfl⟩

theorem lastGiven_eq_some_iff {vars : Variables}
    (hone : ∀ a ∈ vars, ∀ b ∈ vars, Text.lower a.1 = Text.lower b.1 → a = b) :
    lastGiven vars f = some raw ↔ ∃ name text, (name, some text) ∈ vars ∧
      Text.lower name = Text.lower (variableStart ++ f.name) ∧ raw = .text text := by
  have hfind : ∀ entry, vars.reverse.find? (fun entry => f.isSetBy entry.1) = some entry ↔
      entry ∈ vars ∧ f.isSetBy entry.1 = true := by
    intro entry
    rw [find?_eq_some_iff_mem, List.mem_reverse]
    intro b hb c hc hbn hcn
    exact hone b (List.mem_reverse.1 hb) c (List.mem_reverse.1 hc)
      ((beq_iff_eq.1 hbn).trans (beq_iff_eq.1 hcn).symm)
  rw [lastGiven, Option.bind_eq_some_iff]
  constructor
  · intro hfound
    obtain ⟨⟨name, given⟩, hentry, hgiven⟩ := hfound
    obtain ⟨text, rfl, rfl⟩ := Option.map_eq_some_iff.1 hgiven
    obtain ⟨hmem, hname⟩ := (hfind _).1 hentry
    exact ⟨name, text, hmem, beq_iff_eq.1 hname, rfl⟩
  · intro hgives
    obtain ⟨name, text, hmem, hname, rfl⟩ := hgives
    exact ⟨(name, some text), (hfind _).2 ⟨hmem, beq_iff_eq.2 hname⟩, rfl⟩

theorem environmentVariables_eq_some_iff {s : Sources Raw} (h : standard.Consistent s) :
    lastGiven s.environmentVariables f = some raw ↔ standard.EnvironmentGives s f raw := by
  rw [lastGiven_eq_some_iff]
  · have hmem : ∀ name text, (name, some text) ∈ s.environmentVariables ↔ (name, text) ∈ s.environment := by
      intro name text
      simp [Sources.environmentVariables]
    simp only [hmem]
    rfl
  · intro a ha b hb heq
    obtain ⟨x, hx, rfl⟩ := List.mem_map.1 ha
    obtain ⟨y, hy, rfl⟩ := List.mem_map.1 hb
    rw [h.environment x hx y hy heq]

/-- The table that entries leave holds under a name in any case what the last entry under it gives, if no two names differ in case alone. -/
theorem lastGiven_putAll_eq_some_iff {entries : List (String × Option String)}
    (hone : ∀ a ∈ entries, ∀ b ∈ entries, Text.lower a.1 = Text.lower b.1 → a.1 = b.1) :
    lastGiven (Variables.putAll entries) f = some raw ↔ ∃ name text,
      Last (fun entry => Text.lower entry.1 = Text.lower (variableStart ++ f.name)) entries (name, some text) ∧
        raw = .text text := by
  rw [lastGiven_eq_some_iff]
  · refine exists_congr fun name => exists_congr fun text => ?_
    rw [Variables.mem_putAll_iff, ← and_assoc]
    refine and_congr_left fun _ => ?_
    constructor
    · intro h
      obtain ⟨hlast, hname⟩ := h
      refine hlast.imp fun entry hentry => ⟨?_, ?_⟩
      · intro hsame
        rw [hsame, hname]
      · intro hsame
        exact hone entry hentry _ hlast.mem (hsame.trans hname.symm)
    · intro hlast
      have hname := hlast.holds
      refine ⟨hlast.imp fun entry hentry => ⟨?_, ?_⟩, hname⟩
      · intro hsame
        exact hone entry hentry _ hlast.mem (hsame.trans hname.symm)
      · intro hsame
        rw [hsame, hname]
  · intro a ha b hb heq
    have hlast := Variables.mem_putAll_iff.1 ha
    have hlast' := Variables.mem_putAll_iff.1 hb
    have hname : a.1 = b.1 := hone _ hlast.mem _ hlast'.mem heq
    exact List.inj_on_of_nodup_map (Variables.distinct_putAll _) ha hb hname

theorem textVariables_eq_some_iff {s : Sources Raw} (h : standard.Consistent s) :
    lastGiven s.textVariables f = some raw ↔ standard.TextGives s f raw := by
  have hentries : s.textVariables = Variables.putAll (standard.assignments s.environment s.text) := rfl
  rw [hentries, lastGiven_putAll_eq_some_iff h.text]
  constructor
  · intro hgives
    obtain ⟨name, text, ⟨before, after, hsplit, hname, hafter⟩, rfl⟩ := hgives
    exact ⟨before, name, text, after, hsplit, hname, hafter, rfl⟩
  · intro hgives
    obtain ⟨before, name, text, after, hsplit, hname, hafter, rfl⟩ := hgives
    exact ⟨name, text, ⟨before, after, hsplit, hname, hafter⟩, rfl⟩

/-! ### Reading the fields -/

theorem le_of_readPositive {n : Int} (h : readPositive raw = .ok n) : 1 ≤ n := by
  obtain ⟨m, -, h⟩ := bind_eq_ok_iff.1 h
  split at h
  · next hm =>
    cases h
    exact hm
  · cases h

theorem Field.read_raw {x : f.Value} (h : f.Admits x) : f.read (f.raw x) = .ok x := by
  cases f with
  | debounceTicks => exact if_pos h
  | _ => rfl

theorem Field.admits_of_read {x : f.Value} (h : f.read raw = .ok x) : f.Admits x := by
  cases f with
  | debounceTicks => exact le_of_readPositive h
  | _ => trivial

section Outcomes

variable {given : Field → Option Raw} {cfg : Settings} {faults : List (Field × Fault)} {fault : Fault}

theorem mem_faultOf_iff {α : Type} {g : Field} {r : Except Fault α} :
    (f, fault) ∈ faultOf g r ↔ f = g ∧ r = .error fault := by
  cases r with
  | ok x => simp [faultOf]
  | error e => simp [faultOf, eq_comm]

theorem mem_faultsOf_iff : (f, fault) ∈ faultsOf given ↔ f.outcome given = .error fault := by
  rw [faultsOf, List.mem_flatMap]
  constructor
  · intro hmem
    obtain ⟨g, -, hg⟩ := hmem
    obtain ⟨rfl, hfault⟩ := mem_faultOf_iff.1 hg
    exact hfault
  · intro hfault
    exact ⟨f, f.mem_all, mem_faultOf_iff.2 ⟨rfl, hfault⟩⟩

theorem faults_sublist (given : Field → Option Raw) (fields : List Field) :
    ((fields.flatMap fun f => faultOf f (f.outcome given)).map (·.1)).Sublist fields := by
  induction fields with
  | nil => exact .slnil
  | cons f fields ih =>
    rw [List.flatMap_cons, List.map_append]
    cases f.outcome given with
    | ok x => exact ih.cons f
    | error fault => exact ih.cons_cons f

theorem faultsOf_eq_nil_iff : faultsOf given = [] ↔ ∀ f : Field, ∃ x, f.outcome given = .ok x := by
  rw [List.eq_nil_iff_forall_not_mem, Prod.forall]
  refine forall_congr' fun f => ?_
  simp only [mem_faultsOf_iff]
  constructor
  · intro h
    exact exists_eq_ok h
  · intro h fault hfault
    obtain ⟨x, hx⟩ := h
    cases hx.symm.trans hfault

theorem readAll_eq_ok_iff : readAll given = .ok cfg ↔ ∀ f : Field, f.outcome given = .ok (cfg.value f) := by
  unfold readAll
  split
  · next hnone =>
    have hall := faultsOf_eq_nil_iff.1 hnone
    constructor
    · intro h f
      obtain ⟨x, hx⟩ := hall f
      rw [← Except.ok.inj h, value_ofValues, hx]
      rfl
    · intro h
      have hvalues : (fun f : Field => (f.outcome given).toOption.getD f.unset) = cfg.value := by
        funext f
        rw [h f]
        rfl
      rw [hvalues, ofValues_value]
  · next faults hsome =>
    constructor
    · nofun
    · intro h
      exact absurd (faultsOf_eq_nil_iff.2 fun f => ⟨_, h f⟩) hsome

theorem readAll_eq_error (h : readAll given = .error faults) : (faults.map (·.1)).Nodup ∧
    ∀ f fault, (f, fault) ∈ faults ↔ f.outcome given = .error fault := by
  unfold readAll at h
  split at h
  · cases h
  · cases h
    have hall : Field.all.Nodup := by decide
    exact ⟨(faults_sublist given Field.all).nodup hall, fun f fault => mem_faultsOf_iff⟩

end Outcomes

/-- The library that the program runs with does what is documented. -/
theorem lawful_standard : standard.Lawful where
  isNamed := isNamed_name
  assignments h := (congrArg _ (TextLine.readAll_join h)).trans (TextLine.given_assignments h)
  fromArguments h := argumentGiven_eq_some_iff (h.arguments _)
  fromEnvironment h := environmentVariables_eq_some_iff h
  fromText h := textVariables_eq_some_iff h
  merge _ _ _ := rfl
  convert_ofValue h := Field.read_raw h
  admits h := Field.admits_of_read h
  validate_ok := readAll_eq_ok_iff
  validate_error h := readAll_eq_error h
  build _ := rfl

end ColonySearch.Settings
