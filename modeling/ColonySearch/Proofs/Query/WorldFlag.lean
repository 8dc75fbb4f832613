import Mathlib.Data.List.Basic
import ColonySearch.Proofs.Query.Concatenation

/-!
# The flag of the world map

The character for the world map is a flag in the larger alphabet only. The two alphabets read alike up to the first character that is none of the five common flags, and what they read differs exactly if that character is the one for the world map: with the smaller alphabet the label begins there, and with the larger one the flags go on.
-/

namespace ColonySearch

/-! ### Parts of a term -/

/-- The first `n` characters. -/
def Text.upTo (n : Nat) (text : String) : String := String.ofList (text.toList.take n)

/-- What stands behind the first `n` characters. -/
def Text.behind (n : Nat) (text : String) : String := String.ofList (text.toList.drop n)

/-- The position of the first character that is none of the five common flags, or else the length of the term. -/
def flagsEnd (raw : String) : Nat := raw.toList.findIdx fun c => !"!-#.*".toList.contains c

variable {a : Alphabet} {raw text run label rest : String} {c : Char} {n : Nat}

theorem Text.upTo_append_behind : Text.upTo n text ++ Text.behind n text = text := by
  rw [upTo, behind, ← String.ofList_append, List.take_append_drop, String.ofList_toList]

theorem Text.behind_eq_append (h : text.toList[n]? = some c) :
    Text.behind n text = String.singleton c ++ Text.behind (n + 1) text := by
  obtain ⟨hlt, rfl⟩ := List.getElem?_eq_some_iff.1 h
  rw [behind, behind, List.drop_eq_getElem_cons hlt, String.singleton_eq_ofList,
    ← String.ofList_append]
  rfl

/-! ### The two alphabets -/

namespace Alphabet

theorem contains_false_iff : Contains ⟨false⟩ c ↔ c ∈ "!-#.*".toList := by
  show Contains ⟨false⟩ c ↔ c ∈ ['!', '-', '#', '.', '*']
  simp only [List.mem_cons, List.not_mem_nil, or_false]
  constructor
  · intro h
    obtain ⟨f, hallows, rfl⟩ := h
    cases f with
    | worldMap => cases hallows rfl
    | _ => decide
  · intro h
    rcases h with rfl | rfl | rfl | rfl | rfl
    · exact ⟨.allMaps, nofun, rfl⟩
    · exact ⟨.pawns, nofun, rfl⟩
    · exact ⟨.colonyOnly, nofun, rfl⟩
    · exact ⟨.items, nofun, rfl⟩
    · exact ⟨.matchAll, nofun, rfl⟩

theorem Contains.enlarge (h : Contains ⟨false⟩ c) : Contains ⟨true⟩ c := by
  obtain ⟨f, _, hchar⟩ := h
  exact ⟨f, fun _ => rfl, hchar⟩

theorem Contains.of_ne (h : Contains ⟨true⟩ c) (hne : c ≠ '<') : Contains ⟨false⟩ c := by
  obtain ⟨f, _, rfl⟩ := h
  refine ⟨f, ?_, rfl⟩
  intro hworld
  subst hworld
  exact absurd rfl hne

theorem Contains.ne (h : Contains ⟨false⟩ c) : c ≠ '<' := by
  rintro rfl
  rw [contains_false_iff] at h
  revert h
  decide

/-- Every character but the one for the world map means the same in both alphabets. -/
theorem flag?_eq_flag? (h : c ≠ '<') : flag? ⟨true⟩ c = flag? ⟨false⟩ c := by
  ext f
  show flag? ⟨true⟩ c = some f ↔ flag? ⟨false⟩ c = some f
  rw [flag?_eq_some_iff, flag?_eq_some_iff]
  apply and_congr_left
  intro hchar
  subst hchar
  cases f with
  | worldMap => exact absurd rfl h
  | _ => exact iff_of_true nofun nofun

end Alphabet

open Alphabet

/-- The smaller alphabet splits a term where the common flags end. -/
theorem splits_flagsEnd (raw : String) :
    Splits ⟨false⟩ raw (Text.upTo (flagsEnd raw) raw) (Text.behind (flagsEnd raw) raw) where
  parts := Text.upTo_append_behind.symm
  run c hc := by
    rw [Text.upTo, String.toList_ofList, flagsEnd, ← List.takeWhile_eq_take_findIdx_not] at hc
    have hcommon := List.all_eq_true.1 List.all_takeWhile c hc
    rw [contains_false_iff]
    simpa using hcommon
  label c rest hlabel := by
    rw [Text.behind, String.toList_ofList, flagsEnd, ← List.dropWhile_eq_drop_findIdx_not] at hlabel
    have hhead := Text.forall_mem_head?_dropWhile (fun c => "!-#.*".toList.contains c) raw.toList c
      (hlabel ▸ rfl)
    rw [contains_false_iff]
    simpa using hhead

theorem Alphabet.Splits.enlarge (h : Splits ⟨false⟩ raw run label)
    (hlabel : label.toList.head? ≠ some '<') : Splits ⟨true⟩ raw run label where
  parts := h.parts
  run c hc := (h.run c hc).enlarge
  label c rest hrest hcontains := by
    rw [hrest, List.head?_cons] at hlabel
    apply h.label c rest hrest
    apply hcontains.of_ne
    rintro rfl
    exact hlabel rfl

theorem Alphabet.Splits.run_alone (h : a.Splits raw run label) : a.Splits run run "" where
  parts := String.append_empty.symm
  run := h.run
  label _ _ hrest := nomatch hrest

namespace Query

/-- As long as the label does not begin with the character for the world map, the alphabet makes no difference. -/
theorem parse_eq_parse (h : Splits ⟨false⟩ raw run label)
    (hlabel : label.toList.head? ≠ some '<') : parse ⟨true⟩ raw = parse ⟨false⟩ raw := by
  rw [parse_of_splits h, parse_of_splits (h.enlarge hlabel)]
  congr 1
  apply List.filterMap_congr
  intro c hc
  exact flag?_eq_flag? (h.run c hc).ne

theorem has_parse_run {f : Flag} (h : a.Splits raw run label) :
    (parse a raw).has f = (parse a run).has f := by
  rw [Bool.eq_iff_iff, has_parse_iff h, has_parse_iff h.run_alone]

/-- A run that the smaller alphabet reads is read in the same way by both. -/
theorem parse_run_eq_parse (h : Splits ⟨false⟩ raw run label) :
    parse a run = parse ⟨false⟩ run := by
  rcases a with ⟨_ | _⟩
  · rfl
  · exact parse_eq_parse h.run_alone nofun

/-- Where the flags come to the character for the world map, the larger alphabet reads on. -/
theorem parse_world_flag (h : Splits ⟨false⟩ raw run (String.singleton '<' ++ rest)) :
    parse ⟨true⟩ raw = (parse ⟨false⟩ run).goOn (parse ⟨true⟩ (String.singleton '<' ++ rest)) := by
  have hrun : parse ⟨true⟩ run = parse ⟨false⟩ run := parse_run_eq_parse h
  have hnone : (parse ⟨true⟩ run).label = "" := by
    rw [hrun, parse_of_splits h.run_alone]
    rfl
  rw [h.parts, parse_append_of_label_eq_empty hnone, hrun]

end Query

/-- What the flag of the world map changes when it is put in force. A term whose common flags end without coming to its character is read as before. Otherwise the label began at this character; now the term goes on behind it, and the flags found there and that of the world map join those in front, so that what remains of the label is a proper end of it. While the flag is not in force, no term shows the world map. -/
theorem world_flag_in_force (raw : String) :
    (raw.toList[flagsEnd raw]? ≠ some '<' → Query.parse ⟨true⟩ raw = Query.parse ⟨false⟩ raw) ∧
    (raw.toList[flagsEnd raw]? = some '<' →
      (Query.parse ⟨false⟩ raw).label = Text.behind (flagsEnd raw) raw ∧
      (∀ a f, (Query.parse ⟨false⟩ raw).has f =
        (Query.parse a (Text.upTo (flagsEnd raw) raw)).has f) ∧
      (∀ f, (Query.parse ⟨true⟩ raw).has f = true ↔
        (Query.parse ⟨false⟩ raw).has f = true ∨ f = .worldMap ∨
          (Query.parse ⟨true⟩ (Text.behind (flagsEnd raw + 1) raw)).has f = true) ∧
      (Query.parse ⟨true⟩ raw).label =
        (Query.parse ⟨true⟩ (Text.behind (flagsEnd raw + 1) raw)).label ∧
      ∃ front, front ≠ "" ∧
        (Query.parse ⟨false⟩ raw).label = front ++ (Query.parse ⟨true⟩ raw).label) ∧
    (Query.parse ⟨false⟩ raw).worldMap = false := by
  have hsplits := splits_flagsEnd raw
  refine ⟨?_, ?_, ?_⟩
  · intro h
    apply Query.parse_eq_parse hsplits
    rw [Text.behind, String.toList_ofList, List.head?_drop]
    exact h
  · intro h
    have hflag : flag? ⟨true⟩ '<' = some .worldMap := rfl
    have hrest := Text.behind_eq_append h
    have hworld := Query.parse_world_flag (hrest ▸ hsplits)
    have hlabel : (Query.parse ⟨false⟩ raw).label = Text.behind (flagsEnd raw) raw := by
      rw [Query.parse_of_splits hsplits]
      rfl
    have hremains : (Query.parse ⟨true⟩ raw).label =
        (Query.parse ⟨true⟩ (Text.behind (flagsEnd raw + 1) raw)).label := by
      rw [hworld, Query.label_goOn, Query.label_parse_flag hflag]
    refine ⟨hlabel, ?_, ?_, hremains, ?_⟩
    · intro a f
      rw [Query.parse_run_eq_parse hsplits, Query.has_parse_run hsplits]
    · intro f
      rw [hworld, Query.has_goOn, Bool.or_eq_true, Query.has_parse_flag hflag,
        Query.has_parse_run hsplits]
    · obtain ⟨run, label, hbehind⟩ := Query.exists_splits ⟨true⟩ (Text.behind (flagsEnd raw + 1) raw)
      have hread : (Query.parse ⟨true⟩ raw).label = label := by
        rw [hremains, Query.parse_of_splits hbehind]
        rfl
      refine ⟨"<" ++ run, by simp, ?_⟩
      calc (Query.parse ⟨false⟩ raw).label
          = "<" ++ Text.behind (flagsEnd raw + 1) raw := hlabel.trans hrest
        _ = "<" ++ run ++ label := by rw [hbehind.parts, String.append_assoc]
        _ = "<" ++ run ++ (Query.parse ⟨true⟩ raw).label := by rw [hread]
  · have hworld : (Query.parse ⟨false⟩ raw).has .worldMap ≠ true := by
      rw [Ne, Query.has_parse_iff hsplits]
      intro h
      exact Bool.noConfusion (h.1 rfl)
    exact Bool.eq_false_iff.2 hworld

theorem world_flag_in_force_sample :
    ("-a<".toList[flagsEnd "-a<"]? ≠ some '<' ∧
      Query.parse ⟨true⟩ "-a<" = Query.parse ⟨false⟩ "-a<") ∧
    ("-<.<a".toList[flagsEnd "-<.<a"]? = some '<' ∧
      (Query.parse ⟨false⟩ "-<.<a").label = "<.<a" ∧
      (Query.parse ⟨false⟩ "-<.<a").has .items = false ∧
      (Query.parse ⟨true⟩ "-<.<a").has .items = true ∧
      (Query.parse ⟨true⟩ "-<.<a").label = "a") := by
  have hlabel : "-a<".toList[flagsEnd "-a<"]? ≠ some '<' := by decide
  have hworld : "-<.<a".toList[flagsEnd "-<.<a"]? = some '<' := by decide
  have hsame := (world_flag_in_force "-a<").1 hlabel
  obtain ⟨hbegins, hfront, hjoin, hrest, _⟩ := (world_flag_in_force "-<.<a").2.1 hworld
  refine ⟨⟨hlabel, hsame⟩, hworld, hbegins, ?_, ?_, hrest⟩
  · rw [hfront {} .items]
    decide
  · exact (hjoin .items).2 (Or.inr (Or.inr (by decide)))

end ColonySearch
