import Mathlib.Data.List.Sort
import Mathlib.Data.String.Basic
import ColonySearch.Proofs.View.Selection
import ColonySearch.ResultTable

/-!
# The rows of the result table

The parts of the results are sets, which have no order of their own. As long as no two entities of a part have the same label, the table is the same in whatever order the parts are gone through: the labels put the entities of each part in one order, and every entity has one row, made from that entity alone. There is a table if and only if all the integers in it can be written out.
-/

namespace ColonySearch

open Outcome

/-! ### The order of the labels -/

section Order

variable {α β : Type} {label : α → String} {l l' : List α}

theorem perm_sortByLabel (label : α → String) (l : List α) : (sortByLabel label l).Perm l :=
  List.mergeSort_perm l _

/-- Different labels are in strictly increasing order once they are sorted. -/
theorem pairwise_sortByLabel (h : (l.map label).Nodup) :
    (sortByLabel label l).Pairwise fun a b => label a < label b := by
  have hle : (sortByLabel label l).Pairwise fun a b => label a ≤ label b := by
    have hsorted : (sortByLabel label l).Pairwise fun a b => decide (label a ≤ label b) = true := by
      apply List.pairwise_mergeSort
      · intro a b c hab hbc
        rw [decide_eq_true_eq] at hab hbc ⊢
        exact le_trans hab hbc
      · intro a b
        rw [Bool.or_eq_true, decide_eq_true_eq, decide_eq_true_eq]
        exact le_total (label a) (label b)
    exact hsorted.imp of_decide_eq_true
  have hne : (sortByLabel label l).Pairwise fun a b => label a ≠ label b :=
    List.pairwise_map.1 (((perm_sortByLabel label l).map label).nodup_iff.2 h)
  exact (hle.and hne).imp fun hboth => lt_of_le_of_ne hboth.1 hboth.2

/-- There is one order of the labels only. -/
theorem sortByLabel_eq_of_perm (h : (l.map label).Nodup) (hperm : l.Perm l') :
    sortByLabel label l' = sortByLabel label l := by
  have hsame : (sortByLabel label l').Perm (sortByLabel label l) :=
    (perm_sortByLabel label l').trans (hperm.symm.trans (perm_sortByLabel label l).symm)
  refine hsame.eq_of_pairwise ?_ (pairwise_sortByLabel ((hperm.map label).nodup_iff.1 h))
    (pairwise_sortByLabel h)
  intro a b _ _ hab hba
  exact absurd hba (lt_asymm hab)

theorem sortByLabel_eq_self (h : l.Pairwise fun a b => label a < label b) : sortByLabel label l = l := by
  apply List.mergeSort_of_pairwise
  exact h.imp fun hlt => decide_eq_true (le_of_lt hlt)

theorem sortByLabel_map (label : α → String) (f : β → α) (l : List β) :
    sortByLabel label (l.map f) = (sortByLabel (fun b => label (f b)) l).map f :=
  (List.map_mergeSort (f := f) fun _ _ _ _ => rfl).symm

end Order

/-! ### The row of an entity -/

/-- Both coordinates have few enough digits to be written out. -/
def Cell.IsWritable (cell : Cell) : Prop :=
  Text.digitCount cell.x ≤ maxDigits ∧ Text.digitCount cell.z ≤ maxDigits

instance (cell : Cell) : Decidable cell.IsWritable := inferInstanceAs (Decidable (_ ∧ _))

namespace Colony

/-- The text says where the thing is: the name of the map that holds it, or a question mark, and the cell behind it. -/
def Locates (c : Colony) (t : Thing) (place : String) : Prop :=
  ∃ name, place = name ++ " (" ++ toString t.cell.x ++ ", " ++ toString t.cell.z ++ ")" ∧
    ((∃ m, t.mapHeld = some m ∧ name = (c.map m).id) ∨ t.mapHeld = none ∧ name = "?")

/-- The row says of the thing what kind of match it is, its label as it is shown, where it is, and its description or nothing. -/
def IsThingRow (c : Colony) (kind : String) (k : ThingKey) (row : List String) : Prop :=
  ∃ place description, row = [kind, (c.thing k).labelCap, place, description] ∧
    c.Locates (c.thing k) place ∧
    ((c.thing k).description = some description ∨
      (c.thing k).description = none ∧ description = "")

/-- The row says of the site its label as it is shown, its tile, and its description or nothing. -/
def IsSiteRow (c : Colony) (k : SiteKey) (row : List String) : Prop :=
  ∃ description, row = ["world", (c.site k).labelCap, "tile " ++ toString (c.site k).tile, description] ∧
    ((c.site k).description = some description ∨ (c.site k).description = none ∧ description = "")

variable {c : Colony}

theorem whereabouts_eq_ok_iff {t : Thing} {place : String} :
    c.whereabouts t = .ok place ↔ t.cell.IsWritable ∧ c.Locates t place := by
  simp only [whereabouts, bind_eq_ok_iff, Text.decimal_eq_ok_iff, Cell.IsWritable, Locates]
  cases t.mapHeld with
  | none =>
    constructor
    · rintro ⟨_, ⟨hx, rfl⟩, _, ⟨hz, rfl⟩, h⟩
      exact ⟨⟨hx, hz⟩, "?", (Except.ok.inj h).symm, Or.inr ⟨rfl, rfl⟩⟩
    · rintro ⟨⟨hx, hz⟩, name, rfl, ⟨m, hm, _⟩ | ⟨_, rfl⟩⟩
      · cases hm
      · exact ⟨_, ⟨hx, rfl⟩, _, ⟨hz, rfl⟩, rfl⟩
  | some m =>
    constructor
    · rintro ⟨_, ⟨hx, rfl⟩, _, ⟨hz, rfl⟩, h⟩
      exact ⟨⟨hx, hz⟩, (c.map m).id, (Except.ok.inj h).symm, Or.inl ⟨m, rfl, rfl⟩⟩
    · rintro ⟨⟨hx, hz⟩, name, rfl, ⟨m', hm, rfl⟩ | ⟨hm, _⟩⟩
      · cases hm
        exact ⟨_, ⟨hx, rfl⟩, _, ⟨hz, rfl⟩, rfl⟩
      · cases hm

theorem eq_getD_iff {description : Option String} {text : String} :
    text = description.getD "" ↔ description = some text ∨ description = none ∧ text = "" := by
  cases description with
  | none => simp
  | some _ => simp [eq_comm]

theorem thingRow_eq_ok_iff {kind : String} {k : ThingKey} {row : List String} :
    c.thingRow kind (c.thing k) = .ok row ↔
      (c.thing k).cell.IsWritable ∧ c.IsThingRow kind k row := by
  simp only [thingRow, bind_eq_ok_iff, whereabouts_eq_ok_iff, IsThingRow, ← eq_getD_iff]
  constructor
  · rintro ⟨place, ⟨hwritable, hplace⟩, h⟩
    exact ⟨hwritable, place, _, (Except.ok.inj h).symm, hplace, rfl⟩
  · rintro ⟨hwritable, place, _, rfl, hplace, rfl⟩
    exact ⟨place, ⟨hwritable, hplace⟩, rfl⟩

theorem row_eq_ok_iff {k : SiteKey} {row : List String} :
    (c.site k).row = .ok row ↔
      Text.digitCount (c.site k).tile ≤ maxDigits ∧ c.IsSiteRow k row := by
  simp only [Site.row, bind_eq_ok_iff, Text.decimal_eq_ok_iff, IsSiteRow, ← eq_getD_iff]
  constructor
  · rintro ⟨_, ⟨htile, rfl⟩, h⟩
    exact ⟨htile, _, (Except.ok.inj h).symm, rfl⟩
  · rintro ⟨htile, _, rfl, rfl⟩
    exact ⟨_, ⟨htile, rfl⟩, rfl⟩

theorem exists_isThingRow (kind : String) (k : ThingKey) : ∃ row, c.IsThingRow kind k row := by
  have hplace : ∃ place, c.Locates (c.thing k) place := by
    cases hheld : (c.thing k).mapHeld with
    | none => exact ⟨_, "?", rfl, Or.inr ⟨hheld, rfl⟩⟩
    | some m => exact ⟨_, (c.map m).id, rfl, Or.inl ⟨m, hheld, rfl⟩⟩
  obtain ⟨place, hplace⟩ := hplace
  exact ⟨_, place, _, rfl, hplace, eq_getD_iff.1 rfl⟩

theorem exists_isSiteRow (k : SiteKey) : ∃ row, c.IsSiteRow k row := ⟨_, _, rfl, eq_getD_iff.1 rfl⟩

end Colony

/-! ### The table -/

namespace Results

/-- No two entities of one part have the same label. -/
structure LabelsDiffer (r : Results) (c : Colony) : Prop where
  pawns : (r.pawns.map fun k => (c.thing k).label).Nodup
  things : (r.things.map fun k => (c.thing k).label).Nodup
  sites : (r.sites.map fun k => (c.site k).label).Nodup

/-- Each part is in strictly increasing order of the labels. -/
structure InLabelOrder (r : Results) (c : Colony) : Prop where
  pawns : r.pawns.Pairwise fun k k' => (c.thing k).label < (c.thing k').label
  things : r.things.Pairwise fun k k' => (c.thing k).label < (c.thing k').label
  sites : r.sites.Pairwise fun k k' => (c.site k).label < (c.site k').label

/-- The integers of all rows have few enough digits to be written out: the coordinates of the pawns and the things, and the tiles of the sites. -/
structure Writable (r : Results) (c : Colony) : Prop where
  pawns : ∀ k ∈ r.pawns, (c.thing k).cell.IsWritable
  things : ∀ k ∈ r.things, (c.thing k).cell.IsWritable
  sites : ∀ k ∈ r.sites, Text.digitCount (c.site k).tile ≤ maxDigits

/-- The results with each part in the order of the labels. -/
def byLabel (r : Results) (c : Colony) : Results where
  pawns := sortByLabel (fun k => (c.thing k).label) r.pawns
  things := sortByLabel (fun k => (c.thing k).label) r.things
  sites := sortByLabel (fun k => (c.site k).label) r.sites

variable {r r' : Results} {c : Colony} {t : Table}

theorem Reordered.writable_iff (h : r.Reordered r') : r'.Writable c ↔ r.Writable c := by
  constructor
  · intro hr
    exact ⟨fun k hk => hr.pawns k (h.pawns.mem_iff.1 hk), fun k hk => hr.things k (h.things.mem_iff.1 hk),
      fun k hk => hr.sites k (h.sites.mem_iff.1 hk)⟩
  · intro hr
    exact ⟨fun k hk => hr.pawns k (h.pawns.mem_iff.2 hk), fun k hk => hr.things k (h.things.mem_iff.2 hk),
      fun k hk => hr.sites k (h.sites.mem_iff.2 hk)⟩

theorem reordered_byLabel (r : Results) (c : Colony) : r.Reordered (r.byLabel c) where
  pawns := (perm_sortByLabel _ r.pawns).symm
  things := (perm_sortByLabel _ r.things).symm
  sites := (perm_sortByLabel _ r.sites).symm

theorem LabelsDiffer.inLabelOrder (h : r.LabelsDiffer c) : (r.byLabel c).InLabelOrder c where
  pawns := pairwise_sortByLabel h.pawns
  things := pairwise_sortByLabel h.things
  sites := pairwise_sortByLabel h.sites

theorem LabelsDiffer.byLabel_eq (h : r.LabelsDiffer c) (horder : r.Reordered r') :
    r'.byLabel c = r.byLabel c := by
  rw [byLabel, sortByLabel_eq_of_perm h.pawns horder.pawns,
    sortByLabel_eq_of_perm h.things horder.things, sortByLabel_eq_of_perm h.sites horder.sites]
  rfl

theorem InLabelOrder.byLabel_eq (h : r.InLabelOrder c) : r.byLabel c = r := by
  rw [byLabel, sortByLabel_eq_self h.pawns, sortByLabel_eq_self h.things, sortByLabel_eq_self h.sites]

/-- The rows come from the entities in the order of their labels, one from each. -/
theorem table_eq (r : Results) (c : Colony) : r.table c = (do
    let pawns ← (r.byLabel c).pawns.mapM fun k => c.thingRow "pawn" (c.thing k)
    let things ← (r.byLabel c).things.mapM fun k => c.thingRow "thing" (c.thing k)
    let sites ← (r.byLabel c).sites.mapM fun k => (c.site k).row
    return {
      title := toString r.total ++ " result(s)"
      columns := ["kind", "label", "where", "description"]
      rows := pawns ++ things ++ sites }) := by
  rw [table, sortByLabel_map, sortByLabel_map, sortByLabel_map]
  simp only [List.mapM_map]
  rfl

theorem table_eq_ok_iff : r.table c = .ok t ↔
    (r.byLabel c).Writable c ∧ ∃ pawnRows thingRows siteRows : List (List String),
      List.Forall₂ (c.IsThingRow "pawn") (r.byLabel c).pawns pawnRows ∧
      List.Forall₂ (c.IsThingRow "thing") (r.byLabel c).things thingRows ∧
      List.Forall₂ c.IsSiteRow (r.byLabel c).sites siteRows ∧
      t = { title := toString r.total ++ " result(s)"
            columns := ["kind", "label", "where", "description"]
            rows := pawnRows ++ thingRows ++ siteRows } := by
  simp only [table_eq, bind_eq_ok_iff, mapM_eq_ok_iff, Colony.thingRow_eq_ok_iff,
    Colony.row_eq_ok_iff, List.forall₂_and_left]
  constructor
  · rintro ⟨pawnRows, ⟨hp, hpawns⟩, thingRows, ⟨ht, hthings⟩, siteRows, ⟨hs, hsites⟩, h⟩
    exact ⟨⟨hp, ht, hs⟩, pawnRows, thingRows, siteRows, hpawns, hthings, hsites,
      (Except.ok.inj h).symm⟩
  · rintro ⟨⟨hp, ht, hs⟩, pawnRows, thingRows, siteRows, hpawns, hthings, hsites, rfl⟩
    exact ⟨pawnRows, ⟨hp, hpawns⟩, thingRows, ⟨ht, hthings⟩, siteRows, ⟨hs, hsites⟩, rfl⟩

/-- There is a table if and only if its integers can be written out. -/
theorem exists_table_eq_ok_iff : (∃ t, r.table c = .ok t) ↔ r.Writable c := by
  have hsorted : r.Reordered (r.byLabel c) := r.reordered_byLabel c
  constructor
  · intro h
    obtain ⟨t, ht⟩ := h
    exact hsorted.writable_iff.1 (table_eq_ok_iff.1 ht).1
  · intro h
    obtain ⟨pawnRows, hpawns⟩ := exists_forall₂ fun k (_ : k ∈ (r.byLabel c).pawns) =>
      Colony.exists_isThingRow "pawn" k
    obtain ⟨thingRows, hthings⟩ := exists_forall₂ fun k (_ : k ∈ (r.byLabel c).things) =>
      Colony.exists_isThingRow "thing" k
    obtain ⟨siteRows, hsites⟩ := exists_forall₂ fun k (_ : k ∈ (r.byLabel c).sites) =>
      Colony.exists_isSiteRow k
    exact ⟨_, table_eq_ok_iff.2
      ⟨hsorted.writable_iff.2 h, pawnRows, thingRows, siteRows, hpawns, hthings, hsites, rfl⟩⟩

theorem LabelsDiffer.table_eq (h : r.LabelsDiffer c) (horder : r.Reordered r') :
    r'.table c = r.table c := by
  rw [Results.table_eq, Results.table_eq, h.byLabel_eq horder, horder.total_eq]

/-- The table loses and repeats nothing. If no two entities of one part of the results have the same label and the integers in the rows have few enough digits to be written out, then in whatever order the parts are gone through the table is the same: its title counts the total, and its rows are as many, one for each pawn, then one for each thing, then one for each site, each part in strictly increasing order of the labels as they are, not as they are shown. The row of an entity says its label as it is shown, where it is, and its description or nothing. If an integer has too many digits there is no table, in whatever order the parts are gone through. -/
theorem table_of_any_order (h : r.LabelsDiffer c) :
    (r.Writable c → ∃ sorted : Results, r.Reordered sorted ∧ sorted.InLabelOrder c ∧
      ∃ pawnRows thingRows siteRows : List (List String),
        List.Forall₂ (c.IsThingRow "pawn") sorted.pawns pawnRows ∧
        List.Forall₂ (c.IsThingRow "thing") sorted.things thingRows ∧
        List.Forall₂ c.IsSiteRow sorted.sites siteRows ∧
        (pawnRows ++ thingRows ++ siteRows).length = r.total ∧
        ∀ r', r.Reordered r' → r'.table c = .ok
          { title := toString r.total ++ " result(s)"
            columns := ["kind", "label", "where", "description"]
            rows := pawnRows ++ thingRows ++ siteRows }) ∧
    (¬ r.Writable c → ∀ r', r.Reordered r' → r'.table c = .error .tooManyDigits) := by
  have hsorted : r.Reordered (r.byLabel c) := r.reordered_byLabel c
  constructor
  · intro hwritable
    obtain ⟨t, ht⟩ := exists_table_eq_ok_iff.2 hwritable
    obtain ⟨_, pawnRows, thingRows, siteRows, hpawns, hthings, hsites, rfl⟩ := table_eq_ok_iff.1 ht
    refine ⟨r.byLabel c, hsorted, h.inLabelOrder, pawnRows, thingRows, siteRows, hpawns, hthings,
      hsites, ?_, ?_⟩
    · rw [← hsorted.total_eq, ← length_entities]
      simp only [entities, List.length_append, List.length_map, hpawns.length_eq,
        hthings.length_eq, hsites.length_eq]
    · intro r' horder
      exact (h.table_eq horder).trans ht
  · intro hlong r' horder
    cases htable : r'.table c with
    | error e => cases e; rfl
    | ok t => exact absurd (horder.writable_iff.1 (exists_table_eq_ok_iff.1 ⟨t, htable⟩)) hlong

end Results

namespace Sample

/-- Two pawns, one on a map, whose labels stand in another order than what is shown of them, and a thing that no map holds. -/
def shelf : Colony where
  thing := fun k =>
    [{ label := "bob", kind := .pawn, cell := ⟨-1, 2⟩, mapHeld := some ⟨0⟩ },
     { label := "Zed", kind := .pawn, description := some "cook" },
     { label := "crate", haulable := true }].getD k.index {}
  map := fun _ => { id := "home" }
  site := fun _ => { label := "camp", tile := -7 }

def shelved : Results := { pawns := [⟨0⟩, ⟨1⟩], things := [⟨2⟩], sites := [⟨0⟩] }

def reshelved : Results := { pawns := [⟨1⟩, ⟨0⟩], things := [⟨2⟩], sites := [⟨0⟩] }

end Sample

open Sample in
theorem table_of_any_order_sample :
    shelved.LabelsDiffer shelf ∧ shelved.Reordered reshelved ∧ shelved.Writable shelf ∧
      shelved.table shelf = .ok
        { title := "4 result(s)"
          columns := ["kind", "label", "where", "description"]
          rows := [["pawn", "Zed", "? (0, 0)", "cook"], ["pawn", "Bob", "home (-1, 2)", ""],
            ["thing", "Crate", "? (0, 0)", ""], ["world", "Camp", "tile -7", ""]] } := by
  have hdiffer : shelved.LabelsDiffer shelf := ⟨by decide, by decide, by decide⟩
  have horder : shelved.Reordered reshelved := ⟨.swap _ _ _, .refl _, .refl _⟩
  have hsorted : reshelved.InLabelOrder shelf := ⟨by decide, by decide, by decide⟩
  have hwritable : shelved.Writable shelf :=
    ⟨by decide +kernel, by decide +kernel, by decide +kernel⟩
  obtain ⟨_, _, _, _, _, _, _, _, _, _, hsame⟩ := (Results.table_of_any_order hdiffer).1 hwritable
  refine ⟨hdiffer, horder, hwritable, ?_⟩
  rw [hsame shelved ⟨.refl _, .refl _, .refl _⟩, ← hsame reshelved horder, Results.table_eq,
    hsorted.byLabel_eq]
  decide +kernel

/-- A tile with one digit too many. -/
def Sample.farOff : Colony where
  site := fun _ => { label := "camp", tile := 10 ^ maxDigits }

open Sample in
theorem long_tile_leaves_no_table :
    Results.LabelsDiffer { sites := [⟨0⟩] } farOff ∧
      Results.total { sites := [⟨0⟩] } = 1 ∧
      Results.table { sites := [⟨0⟩] } farOff = .error .tooManyDigits := by
  refine ⟨⟨by decide, by decide, by decide⟩, rfl, ?_⟩
  cases htable : Results.table { sites := [⟨0⟩] } farOff with
  | error e => cases e; rfl
  | ok t =>
    have htile : Text.digitCount (10 ^ maxDigits) ≤ maxDigits :=
      (Results.exists_table_eq_ok_iff.1 ⟨t, htable⟩).sites ⟨0⟩ List.mem_cons_self
    have hcount : Text.digitCount (10 ^ maxDigits) = maxDigits + 1 := by decide +kernel
    exact absurd (hcount ▸ htile) (Nat.not_succ_le_self _)

end ColonySearch
