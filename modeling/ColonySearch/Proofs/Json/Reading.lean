import ColonySearch.Json.Reader
import ColonySearch.Proofs.Json.Scanning
import ColonySearch.Proofs.Outcome

/-!
# Reading by the grammar

The reader takes exactly the tokens that write a value by the grammar. What it has read is written in front of what it leaves over, by induction on the fuel; what is written is read, by induction on how it is written, with fuel for each token twice over. A fault is reported exactly where a value comes next, again by one induction for either direction.
-/

namespace ColonySearch.Json

/-! ### What is written -/

/-- What is written begins with a token, which closes nothing. -/
theorem Writes.exists_cons {part : Part} {written : List Token} (h : Writes part written) :
    ∃ token rest, written = token :: rest ∧ token ≠ .closeArray ∧ token ≠ .closeObject := by
  induction h with
  | item _ ih => exact ih
  | items _ _ ih _ =>
    obtain ⟨token, rest, rfl, hclose⟩ := ih
    exact ⟨token, _, rfl, hclose⟩
  | _ => exact ⟨_, _, rfl, nofun, nofun⟩

theorem Writes.length_pos {part : Part} {written : List Token} (h : Writes part written) :
    0 < written.length := by
  obtain ⟨token, rest, rfl, _⟩ := h.exists_cons
  exact Nat.succ_pos rest.length

theorem Writes.ne_fault {part : Part} {written : List Token} (h : Writes part written)
    (error : ReadError) : .fault error ∉ written := by
  induction h with
  | scalar | text | emptyArray | emptyObject => simp
  | array _ ih | object _ ih | member _ ih => simpa using ih
  | item _ ih => exact ih
  | items _ _ ih ihs | members _ _ ih ihs => simp [ih, ihs]

theorem separated_append (front : List Token) {rest : List Token} {mark : Token} (hmark : mark.IsMark)
    (hfront : Separated front) (hrest : Separated rest) : Separated (front ++ mark :: rest) := by
  refine List.isChain_append.2 ⟨hfront, List.isChain_cons.2 ⟨?_, hrest⟩, ?_⟩
  · intro next _
    exact Or.inl hmark
  · intro last _ next hnext
    cases hnext
    exact Or.inr hmark

theorem Writes.separated {part : Part} {written : List Token} (h : Writes part written) :
    Separated written := by
  have hnil : Separated [] := .nil
  have hone : ∀ token, Separated [token] := .singleton
  induction h with
  | scalar v => exact hone _
  | text s => exact hone _
  | emptyArray => exact separated_append [] trivial hnil (hone _)
  | emptyObject => exact separated_append [] trivial hnil (hone _)
  | array _ ih =>
    exact separated_append _ trivial (separated_append [] trivial hnil ih) hnil
  | object _ ih =>
    exact separated_append _ trivial (separated_append [] trivial hnil ih) hnil
  | item _ ih => exact ih
  | items _ _ ih ihs => exact separated_append _ trivial ih ihs
  | member _ ih => exact separated_append [.text _] trivial (hone _) ih
  | members _ _ ih ihs =>
    exact separated_append _ trivial (separated_append [.text _] trivial (hone _) ih) ihs

theorem Awaits.separated {kind : Kind} {front : List Token} (h : Awaits kind front) :
    Separated front ∧ ∀ last ∈ front.getLast?, last.IsMark := by
  have hnil : Separated [] := .nil
  have hlast : ∀ (before : List Token) (mark : Token) (front : List Token), mark.IsMark →
      (∀ last ∈ front.getLast?, last.IsMark) → ∀ last ∈ (before ++ mark :: front).getLast?, last.IsMark := by
    intro before mark front hmark hfront last h
    rw [List.getLast?_append, List.getLast?_cons, Option.some_or, Option.mem_some_iff] at h
    cases hmore : front.getLast? with
    | none => rwa [← h, hmore]
    | some other =>
      rw [hmore] at h
      exact hfront last (h ▸ hmore)
  induction h with
  | value => exact ⟨hnil, nofun⟩
  | array _ ih | object _ ih => exact ⟨separated_append [] trivial hnil ih.1, hlast [] _ _ trivial ih.2⟩
  | item _ ih => exact ih
  | items hv _ ih => exact ⟨separated_append _ trivial hv.separated ih.1, hlast _ _ _ trivial ih.2⟩
  | member _ ih =>
    exact ⟨separated_append [.text _] trivial (.singleton _) ih.1, hlast [.text _] _ _ trivial ih.2⟩
  | @members key _ written _ hv _ ih =>
    refine ⟨separated_append _ trivial ?_ ih.1, hlast (.text key :: .colon :: written) _ _ trivial ih.2⟩
    exact separated_append [.text _] trivial (.singleton _) hv.separated

def Part.kind : Part → Kind
  | .value _ => .value
  | .items _ => .items
  | .members _ => .members

/-- The token is one that a value begins with and a member does not. -/
def Token.IsStart : Token → Prop
  | .scalar _ | .openArray | .openObject => True
  | _ => False

/-- In a list with two different elements one comes before the other. -/
theorem append_cons_cases {α : Type} {a b : α} {xs ys front more : List α} (hne : a ≠ b)
    (h : xs ++ a :: ys = front ++ b :: more) : (∃ inner, xs = front ++ b :: inner) ∨
      ∃ inner, front = xs ++ a :: inner ∧ ys = inner ++ b :: more := by
  obtain ⟨between, hfront, hrest⟩ | ⟨between, hxs, hrest⟩ := List.append_eq_append_iff.1 h
  · cases between with
    | nil => exact absurd (List.cons.inj hrest).1 hne
    | cons first inner =>
      obtain ⟨rfl, hys⟩ := List.cons.inj hrest
      exact Or.inr ⟨inner, hfront, hys⟩
  · cases between with
    | nil => exact absurd (List.cons.inj hrest).1 hne.symm
    | cons first inner =>
      obtain ⟨rfl, _⟩ := List.cons.inj hrest
      exact Or.inl ⟨inner, hxs⟩

/-- In front of where a value begins in what is written, a value comes next. -/
theorem Writes.awaits {part : Part} {written front more : List Token} {token : Token}
    (h : Writes part written) (hwritten : written = front ++ token :: more) (htoken : token.IsStart) :
    Awaits part.kind front := by
  have hother : ∀ {other : Token}, ¬ other.IsStart → other ≠ token := fun hother hsame => hother (hsame ▸ htoken)
  have hclosed : ∀ (inner : List Token) {front more : List Token} {close : Token}, ¬ close.IsStart →
      inner ++ [close] = front ++ token :: more → ∃ more, inner = front ++ token :: more := by
    intro inner front more close hclose hsame
    obtain hinner | ⟨rest, _, hrest⟩ := append_cons_cases (hother hclose) hsame
    · exact hinner
    · simp at hrest
  have hkey : ∀ {key : String} {behind front more : List Token},
      .text key :: .colon :: behind = front ++ token :: more →
        ∃ inner, front = .text key :: .colon :: inner ∧ behind = inner ++ token :: more := by
    intro key behind front more hsame
    obtain ⟨_, hfirst⟩ | ⟨first, rfl, hbehind⟩ := List.cons_eq_append_iff.1 hsame
    · cases (List.cons.inj hfirst).1
      exact htoken.elim
    · obtain ⟨_, hsecond⟩ | ⟨inner, rfl, hinner⟩ := List.cons_eq_append_iff.1 hbehind
      · cases (List.cons.inj hsecond).1
        exact htoken.elim
      · exact ⟨inner, rfl, hinner⟩
  induction h generalizing front more with
  | scalar v =>
    cases front with
    | nil => exact .value
    | cons first front => simp at hwritten
  | text s =>
    cases front with
    | nil => exact .value
    | cons first front => simp at hwritten
  | emptyArray | emptyObject =>
    cases front with
    | nil => exact .value
    | cons first front =>
      obtain ⟨inner, hinner⟩ := hclosed [] id (List.cons.inj hwritten).2
      simp at hinner
  | array _ ih =>
    cases front with
    | nil => exact .value
    | cons first front =>
      obtain ⟨rfl, hrest⟩ := List.cons.inj hwritten
      obtain ⟨more, hinner⟩ := hclosed _ id hrest
      exact .array (ih hinner)
  | object _ ih =>
    cases front with
    | nil => exact .value
    | cons first front =>
      obtain ⟨rfl, hrest⟩ := List.cons.inj hwritten
      obtain ⟨more, hinner⟩ := hclosed _ id hrest
      exact .object (ih hinner)
  | item _ ih => exact .item (ih hwritten)
  | items hv _ ih ihs =>
    obtain ⟨inner, hinner⟩ | ⟨inner, rfl, hmore⟩ := append_cons_cases (hother id) hwritten
    · exact .item (ih hinner)
    · exact .items hv (ihs hmore)
  | member _ ih =>
    obtain ⟨inner, rfl, hinner⟩ := hkey hwritten
    exact .member (ih hinner)
  | members hv _ ih ihs =>
    obtain ⟨behind, rfl, hbehind⟩ := hkey hwritten
    obtain ⟨inner, hinner⟩ | ⟨inner, rfl, hmore⟩ := append_cons_cases (hother id) hbehind
    · exact .member (ih hinner)
    · exact .members hv (ihs hmore)

/-! ### What is written is read -/

section Steps

variable {fuel : Nat} {key : String} {v : Value} {vs : List Value} {ms : List (String × Value)}
  {front more rest : List Token}

theorem readValue_array (hclose : ∀ tail, front ≠ .closeArray :: tail)
    (h : readItems fuel front = .ok (vs, rest)) :
    readValue (fuel + 1) (.openArray :: front) = .ok (.array vs, rest) := by
  rw [readValue, h]
  · rfl
  · exact hclose

theorem readValue_object (hclose : ∀ tail, front ≠ .closeObject :: tail)
    (h : readMembers fuel front = .ok (ms, rest)) :
    readValue (fuel + 1) (.openObject :: front) = .ok (.object ms, rest) := by
  rw [readValue, h]
  · rfl
  · exact hclose

theorem readItems_last (h : readValue fuel front = .ok (v, .closeArray :: rest)) :
    readItems (fuel + 1) front = .ok ([v], rest) := by
  rw [readItems, h]
  rfl

theorem readItems_more (h : readValue fuel front = .ok (v, .comma :: more))
    (hs : readItems fuel more = .ok (vs, rest)) : readItems (fuel + 1) front = .ok (v :: vs, rest) := by
  rw [readItems, h]
  show (readItems fuel more >>= _) = _
  rw [hs]
  rfl

theorem readMembers_last (h : readValue fuel front = .ok (v, .closeObject :: rest)) :
    readMembers (fuel + 1) (.text key :: .colon :: front) = .ok ([(key, v)], rest) := by
  rw [readMembers, h]
  rfl

theorem readMembers_more (h : readValue fuel front = .ok (v, .comma :: more))
    (hs : readMembers fuel more = .ok (ms, rest)) :
    readMembers (fuel + 1) (.text key :: .colon :: front) = .ok ((key, v) :: ms, rest) := by
  rw [readMembers, h]
  show (readMembers fuel more >>= _) = _
  rw [hs]
  rfl

end Steps

/-- The tokens are read as this part, whatever follows them, with fuel for each of them twice over. -/
def Reads : Part → List Token → Prop
  | .value v, written => ∀ fuel rest, 2 * written.length ≤ fuel + 1 →
    readValue fuel (written ++ rest) = .ok (v, rest)
  | .items vs, written => ∀ fuel rest, 2 * written.length ≤ fuel →
    readItems fuel (written ++ .closeArray :: rest) = .ok (vs, rest)
  | .members ms, written => ∀ fuel rest, 2 * written.length ≤ fuel →
    readMembers fuel (written ++ .closeObject :: rest) = .ok (ms, rest)

theorem Writes.reads {part : Part} {written : List Token} (h : Writes part written) :
    Reads part written := by
  induction h with
  | scalar | text | emptyArray | emptyObject =>
    intro fuel rest hfuel
    simp only [List.length_cons, List.length_nil] at hfuel
    obtain ⟨fuel, rfl⟩ := Nat.exists_eq_add_one.2 (show 0 < fuel by omega)
    rfl
  | @array vs inner h ih =>
    intro fuel rest hfuel
    simp only [List.length_append, List.length_cons, List.length_nil] at hfuel
    obtain ⟨fuel, rfl⟩ := Nat.exists_eq_add_one.2 (show 0 < fuel by omega)
    rw [List.cons_append, List.cons_append, List.append_assoc]
    apply readValue_array _ (ih fuel rest (by omega))
    obtain ⟨token, more, rfl, hclose, _⟩ := h.exists_cons
    rintro tail hfront
    exact hclose (List.cons.inj hfront).1
  | @object ms inner h ih =>
    intro fuel rest hfuel
    simp only [List.length_append, List.length_cons, List.length_nil] at hfuel
    obtain ⟨fuel, rfl⟩ := Nat.exists_eq_add_one.2 (show 0 < fuel by omega)
    rw [List.cons_append, List.cons_append, List.append_assoc]
    apply readValue_object _ (ih fuel rest (by omega))
    obtain ⟨token, more, rfl, _, hclose⟩ := h.exists_cons
    rintro tail hfront
    exact hclose (List.cons.inj hfront).1
  | @item v front h ih =>
    intro fuel rest hfuel
    have hlength := h.length_pos
    obtain ⟨fuel, rfl⟩ := Nat.exists_eq_add_one.2 (show 0 < fuel by omega)
    exact readItems_last (ih fuel _ (by omega))
  | @items v vs front more h hs ih ihs =>
    intro fuel rest hfuel
    simp only [List.length_append, List.length_cons] at hfuel
    obtain ⟨fuel, rfl⟩ := Nat.exists_eq_add_one.2 (show 0 < fuel by omega)
    rw [List.append_assoc, List.cons_append]
    exact readItems_more (ih fuel _ (by omega)) (ihs fuel rest (by omega))
  | @member key v front h ih =>
    intro fuel rest hfuel
    simp only [List.length_cons] at hfuel
    obtain ⟨fuel, rfl⟩ := Nat.exists_eq_add_one.2 (show 0 < fuel by omega)
    exact readMembers_last (ih fuel _ (by omega))
  | @members key v ms front more h hs ih ihs =>
    intro fuel rest hfuel
    simp only [List.length_append, List.length_cons] at hfuel
    obtain ⟨fuel, rfl⟩ := Nat.exists_eq_add_one.2 (show 0 < fuel by omega)
    rw [List.append_assoc, List.cons_append, List.cons_append, List.cons_append]
    exact readMembers_more (ih fuel _ (by omega)) (ihs fuel rest (by omega))

/-- The reader of a kind of part fails on the tokens with this error. -/
def Fails (error : ReadError) : Kind → (fuel : Nat) → List Token → Prop
  | .value, fuel, all => readValue fuel all = .error error
  | .items, fuel, all => readItems fuel all = .error error
  | .members, fuel, all => readMembers fuel all = .error error

/-- Where a value comes next, nothing is closed in front. -/
theorem Awaits.ne_close {kind : Kind} {front rest tail : List Token} {first : Token} (h : Awaits kind front)
    (error : ReadError) (hfirst : front ++ .fault error :: rest = first :: tail) :
    first ≠ .closeArray ∧ first ≠ .closeObject := by
  induction h generalizing rest tail with
  | item _ ih => exact ih hfirst
  | items hv _ _ =>
    obtain ⟨token, more, rfl, hclose⟩ := hv.exists_cons
    cases (List.cons.inj hfirst).1
    exact hclose
  | _ =>
    cases (List.cons.inj hfirst).1
    exact ⟨nofun, nofun⟩

def Kind.spareFuel : Kind → Nat
  | .value => 1
  | .items | .members => 2

/-- A fault where a value comes next is reported, whatever follows it. -/
theorem Awaits.fails {kind : Kind} {front : List Token} (h : Awaits kind front) (error : ReadError)
    (rest : List Token) (fuel : Nat) (hfuel : 2 * front.length + kind.spareFuel ≤ fuel) :
    Fails error kind fuel (front ++ .fault error :: rest) := by
  induction h generalizing fuel with
  | value =>
    obtain ⟨fuel, rfl⟩ := Nat.exists_eq_add_one.2 (show 0 < fuel by simp only [Kind.spareFuel] at hfuel; omega)
    rfl
  | @array front h ih =>
    simp only [Kind.spareFuel, List.length_cons] at hfuel ih
    obtain ⟨fuel, rfl⟩ := Nat.exists_eq_add_one.2 (show 0 < fuel by omega)
    have hitems : readItems fuel (front ++ .fault error :: rest) = .error error := ih fuel (by omega)
    show readValue _ (.openArray :: (front ++ _)) = _
    rw [readValue, hitems]
    · rfl
    · exact fun tail htail => (h.ne_close error htail).1 rfl
  | @object front h ih =>
    simp only [Kind.spareFuel, List.length_cons] at hfuel ih
    obtain ⟨fuel, rfl⟩ := Nat.exists_eq_add_one.2 (show 0 < fuel by omega)
    have hmembers : readMembers fuel (front ++ .fault error :: rest) = .error error := ih fuel (by omega)
    show readValue _ (.openObject :: (front ++ _)) = _
    rw [readValue, hmembers]
    · rfl
    · exact fun tail htail => (h.ne_close error htail).2 rfl
  | @item front h ih =>
    simp only [Kind.spareFuel] at hfuel ih
    obtain ⟨fuel, rfl⟩ := Nat.exists_eq_add_one.2 (show 0 < fuel by omega)
    have hvalue : readValue fuel (front ++ .fault error :: rest) = .error error := ih fuel (by omega)
    show readItems _ _ = _
    rw [readItems, hvalue]
    rfl
  | @items v written front hv h ih =>
    simp only [Kind.spareFuel, List.length_append, List.length_cons] at hfuel ih
    obtain ⟨fuel, rfl⟩ := Nat.exists_eq_add_one.2 (show 0 < fuel by omega)
    have hvalue := hv.reads fuel (.comma :: (front ++ .fault error :: rest)) (by omega)
    have hitems : readItems fuel (front ++ .fault error :: rest) = .error error := ih fuel (by omega)
    rw [List.append_assoc, List.cons_append]
    show readItems _ _ = _
    rw [readItems, hvalue]
    show (readItems fuel (front ++ .fault error :: rest) >>= _) = _
    rw [hitems]
    rfl
  | @member key front h ih =>
    simp only [Kind.spareFuel, List.length_cons] at hfuel ih
    obtain ⟨fuel, rfl⟩ := Nat.exists_eq_add_one.2 (show 0 < fuel by omega)
    have hvalue : readValue fuel (front ++ .fault error :: rest) = .error error := ih fuel (by omega)
    show readMembers _ (.text key :: .colon :: (front ++ _)) = _
    rw [readMembers, hvalue]
    rfl
  | @members key v written front hv h ih =>
    simp only [Kind.spareFuel, List.length_append, List.length_cons] at hfuel ih
    obtain ⟨fuel, rfl⟩ := Nat.exists_eq_add_one.2 (show 0 < fuel by omega)
    have hvalue := hv.reads fuel (.comma :: (front ++ .fault error :: rest)) (by omega)
    have hmembers : readMembers fuel (front ++ .fault error :: rest) = .error error := ih fuel (by omega)
    rw [List.append_assoc, List.cons_append, List.cons_append, List.cons_append]
    show readMembers _ _ = _
    rw [readMembers, hvalue]
    show (readMembers fuel (front ++ .fault error :: rest) >>= _) = _
    rw [hmembers]
    rfl

/-! ### What is read is written -/

/-- A reader has read what is written in front, or it has met a fault where a value comes next. -/
structure Follows {α : Type} (Form : α → List Token → Prop) (kind : Kind) (all : List Token)
    (outcome : Except ReadError (α × List Token)) : Prop where
  ok : ∀ a rest, outcome = .ok (a, rest) → ∃ written, all = written ++ rest ∧ Form a written
  error : ∀ error, outcome = .error error → error ≠ .malformed →
    ∃ front rest, all = front ++ .fault error :: rest ∧ Awaits kind front

section Follows

variable {α β : Type} {Form : α → List Token → Prop} {Form' : β → List Token → Prop} {kind kind' : Kind}
  {all : List Token} {outcome : Except ReadError (α × List Token)}

theorem follows_malformed : Follows Form kind all (.error .malformed) :=
  ⟨nofun, fun _ hsame hother => absurd (Except.error.inj hsame).symm hother⟩

theorem follows_ok {a : α} (written rest : List Token) (h : Form a written) :
    Follows Form kind (written ++ rest) (.ok (a, rest)) := by
  refine ⟨?_, nofun⟩
  rintro _ _ ⟨⟩
  exact ⟨written, rfl, h⟩

/-- Two readers in sequence, the second on what the first leaves over. -/
theorem Follows.bind {next : α × List Token → Except ReadError (β × List Token)}
    (h : Follows Form kind all outcome)
    (hnext : ∀ a written rest, Form a written → Follows Form' kind (written ++ rest) (next (a, rest))) :
    Follows Form' kind all (outcome >>= next) := by
  constructor
  · intro b rest hok
    obtain ⟨⟨a, middle⟩, ha, hb⟩ := Outcome.bind_eq_ok_iff.1 hok
    obtain ⟨written, rfl, hform⟩ := h.ok a middle ha
    exact (hnext a written middle hform).ok b rest hb
  · intro error herror hother
    obtain herror | ⟨⟨a, middle⟩, ha, herror⟩ := Outcome.bind_eq_error_iff.1 herror
    · exact h.error error herror hother
    · obtain ⟨written, rfl, hform⟩ := h.ok a middle ha
      exact (hnext a written middle hform).error error herror hother

theorem Follows.mono (h : Follows Form kind all outcome)
    (hkind : ∀ front, Awaits kind front → Awaits kind' front) : Follows Form kind' all outcome := by
  refine ⟨h.ok, fun error herror hother => ?_⟩
  obtain ⟨front, rest, hall, hfront⟩ := h.error error herror hother
  exact ⟨front, rest, hall, hkind front hfront⟩

/-- What is read behind other tokens, by the reader of a part that goes on there. -/
theorem Follows.behind (h : Follows Form kind all outcome) (before : List Token)
    (hkind : ∀ front, Awaits kind front → Awaits kind' (before ++ front)) :
    Follows (fun a written => ∃ more, written = before ++ more ∧ Form a more) kind' (before ++ all)
      outcome := by
  constructor
  · intro a rest hok
    obtain ⟨written, rfl, hform⟩ := h.ok a rest hok
    exact ⟨before ++ written, (List.append_assoc ..).symm, written, rfl, hform⟩
  · intro error herror hother
    obtain ⟨front, rest, rfl, hfront⟩ := h.error error herror hother
    exact ⟨before ++ front, rest, (List.append_assoc ..).symm, hkind front hfront⟩

end Follows

/-- The items of an array with the bracket behind them. -/
def ClosedItems (vs : List Value) (written : List Token) : Prop :=
  ∃ inner, written = inner ++ [.closeArray] ∧ Writes (.items vs) inner

/-- The members of an object with the brace behind them. -/
def ClosedMembers (ms : List (String × Value)) (written : List Token) : Prop :=
  ∃ inner, written = inner ++ [.closeObject] ∧ Writes (.members ms) inner

/-- By induction on the fuel, for the three readers at once. -/
theorem follows_readers (fuel : Nat) :
    (∀ all, Follows (fun v => Writes (.value v)) .value all (readValue fuel all)) ∧
    (∀ all, Follows ClosedItems .items all (readItems fuel all)) ∧
    ∀ all, Follows ClosedMembers .members all (readMembers fuel all) := by
  induction fuel with
  | zero => exact ⟨fun _ => follows_malformed, fun _ => follows_malformed, fun _ => follows_malformed⟩
  | succ fuel ih =>
    obtain ⟨hvalue, hitems, hmembers⟩ := ih
    refine ⟨?_, ?_, ?_⟩
    · intro all
      rw [readValue.eq_def]
      dsimp only
      split
      · exact follows_ok [_] _ (.scalar _)
      · exact follows_ok [_] _ (.text _)
      · exact follows_ok [_, _] _ .emptyArray
      · apply ((hitems _).behind [.openArray] fun _ => .array).bind
        rintro vs _ rest ⟨_, rfl, inner, rfl, hinner⟩
        exact follows_ok _ rest (.array hinner)
      · exact follows_ok [_, _] _ .emptyObject
      · apply ((hmembers _).behind [.openObject] fun _ => .object).bind
        rintro ms _ rest ⟨_, rfl, inner, rfl, hinner⟩
        exact follows_ok _ rest (.object hinner)
      · refine ⟨nofun, ?_⟩
        rintro error ⟨⟩ _
        exact ⟨[], _, rfl, .value⟩
      · exact follows_malformed
    · intro all
      rw [readItems]
      apply ((hvalue all).mono fun _ => .item).bind
      intro v front rest hfront
      dsimp only
      -- Behind a value stands a comma with more items, or the bracket.
      split
      · next more =>
        have hawaits : ∀ inner, Awaits .items inner → Awaits .items (front ++ [Token.comma] ++ inner) := by
          intro inner hinner
          rw [← List.append_cons]
          exact .items hfront hinner
        rw [List.append_cons]
        apply ((hitems more).behind _ hawaits).bind
        rintro vs _ rest' ⟨_, rfl, inner, rfl, hinner⟩
        refine follows_ok _ rest' ⟨front ++ .comma :: inner, ?_, .items hfront hinner⟩
        simp only [List.append_assoc, List.cons_append, List.nil_append]
      · rw [List.append_cons]
        exact follows_ok _ _ ⟨front, rfl, .item hfront⟩
      · exact follows_malformed
    · intro all
      rw [readMembers.eq_def]
      dsimp only
      split
      · next key rest =>
        apply ((hvalue rest).behind [.text key, .colon] fun _ => .member).bind
        rintro v _ rest ⟨front, rfl, hfront⟩
        dsimp only
        split
        · next more =>
          have hawaits : ∀ inner, Awaits .members inner →
              Awaits .members ([Token.text key, .colon] ++ front ++ [Token.comma] ++ inner) := by
            intro inner hinner
            rw [← List.append_cons]
            exact .members hfront hinner
          rw [List.append_cons]
          apply ((hmembers more).behind _ hawaits).bind
          rintro ms _ rest' ⟨_, rfl, inner, rfl, hinner⟩
          refine follows_ok _ rest' ⟨_, ?_, .members hfront hinner⟩
          simp
        · rw [List.append_cons]
          exact follows_ok _ _ ⟨_, rfl, .member hfront⟩
        · exact follows_malformed
      · exact follows_malformed

/-! ### All tokens -/

section Tokens

variable {all : List Token} {v : Value} {error : ReadError}

/-- The tokens that are read are those that write a value. -/
theorem readTokens_eq_ok_iff : readTokens all = .ok v ↔ Writes (.value v) all := by
  constructor
  · intro h
    unfold readTokens at h
    split at h
    · next value hread =>
      cases h
      obtain ⟨written, hall, hwritten⟩ := ((follows_readers _).1 all).ok v [] hread
      rw [List.append_nil] at hall
      exact hall ▸ hwritten
    · cases h
    · cases h
  · intro h
    have hread := h.reads (2 * all.length + 1) [] (by omega)
    rw [List.append_nil] at hread
    rw [readTokens, hread]

/-- A fault is reported if what stands in front of it is the beginning of a value in which one comes next. -/
theorem readTokens_eq_error_iff (hother : error ≠ .malformed) : readTokens all = .error error ↔
    ∃ front rest, all = front ++ .fault error :: rest ∧ Awaits .value front := by
  constructor
  · intro h
    unfold readTokens at h
    split at h
    · cases h
    · exact absurd (Except.error.inj h).symm hother
    · next hread =>
      cases h
      exact ((follows_readers _).1 all).error _ hread hother
  · rintro ⟨front, rest, rfl, hfront⟩
    have hread : readValue _ _ = _ :=
      hfront.fails error rest (2 * (front ++ .fault error :: rest).length + 1) (by
        simp only [Kind.spareFuel, List.length_append]
        omega)
    rw [readTokens, hread]

end Tokens

end ColonySearch.Json
