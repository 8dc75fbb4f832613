import ColonySearch.Proofs.Json.Reading

/-!
# Why a text is not read

Reading fails in one of two ways. Either the text is no document, or the reader gets stuck on the way, over an integer with more digits than are converted or over a container for which there is no room. Where it gets stuck is said by the grammar alone, and a document over which it does not get stuck is read. The tokens of the text and what the reader gets to see of them agree up to the first fault, so both directions are about lists of tokens that a fault ends.
-/

namespace ColonySearch.Json

variable {limit : Option Nat} {room : Nat} {text : List Char} {error : ReadError} {v : Value}

/-! ### Room -/

section Room

variable {token : Token} {container : Container} {rest written front all : List Token}

theorem closes_of_opens? (h : token.opens? = some container) : token.closes = false := by
  cases token <;> first | rfl | cases h

theorem within_open (h : token.opens? = some container) :
    within (room + 1) (token :: rest) = token :: within room rest := by
  simp only [within, h]

theorem within_full (h : token.opens? = some container) :
    within 0 (token :: rest) = [.fault (.tooDeep container)] := by
  simp only [within, h]

theorem within_other (h : token.opens? = none) :
    within room (token :: rest) = token :: within (if token.closes then room + 1 else room) rest := by
  simp only [within, h]

theorem count_open (h : token.opens? = some container) (front : List Token) :
    opened (token :: front) = opened front + 1 ∧ closed (token :: front) = closed front := by
  simp [opened, closed, h, closes_of_opens? h]

theorem count_other (room : Nat) (h : token.opens? = none) (front : List Token) : opened (token :: front) = opened front ∧
    closed (token :: front) + room = closed front + if token.closes then room + 1 else room := by
  cases hcloses : token.closes
  · simp [opened, closed, h, hcloses]
  · simp only [opened, closed, List.countP_cons, h, hcloses, Option.isSome_none, if_true]
    exact ⟨rfl, by omega⟩

theorem fits_nil (room : Nat) : Fits room [] := by
  intro front hfront
  rw [List.prefix_nil.1 hfront]
  exact Nat.zero_le _

theorem fits_open (h : token.opens? = some container) : Fits (room + 1) (token :: rest) ↔ Fits room rest := by
  constructor
  · intro hfits front hfront
    have := hfits (token :: front) ((List.prefix_cons_inj token).2 hfront)
    rw [(count_open h front).1, (count_open h front).2] at this
    omega
  · rintro hfits front hfront
    obtain rfl | ⟨before, rfl, hbefore⟩ := List.prefix_cons_iff.1 hfront
    · exact Nat.zero_le _
    · have := hfits before hbefore
      rw [(count_open h before).1, (count_open h before).2]
      omega

theorem fits_other (h : token.opens? = none) :
    Fits room (token :: rest) ↔ Fits (if token.closes then room + 1 else room) rest := by
  constructor
  · intro hfits front hfront
    have := hfits (token :: front) ((List.prefix_cons_inj token).2 hfront)
    rw [(count_other room h front).1, (count_other room h front).2] at this
    exact this
  · rintro hfits front hfront
    obtain rfl | ⟨before, rfl, hbefore⟩ := List.prefix_cons_iff.1 hfront
    · exact Nat.zero_le _
    · rw [(count_other room h before).1, (count_other room h before).2]
      exact hfits before hbefore

theorem not_fits_zero (h : token.opens? = some container) : ¬ Fits 0 (token :: rest) := by
  intro hfits
  have := hfits [token] ((List.prefix_cons_inj token).2 List.nil_prefix)
  rw [(count_open h []).1, (count_open h []).2] at this
  exact absurd this (by decide)

/-- What there is room for stays, and the room behind it is that in front less what is left open. -/
theorem within_append {behind : Nat} (hfits : Fits room written)
    (hbehind : opened written + behind = closed written + room) :
    within room (written ++ rest) = written ++ within behind rest := by
  induction written generalizing room with
  | nil =>
    obtain rfl : behind = room := by simpa [opened, closed] using hbehind
    rfl
  | cons token written ih =>
    cases hopens : token.opens? with
    | none =>
      rw [(count_other room hopens written).1, (count_other room hopens written).2] at hbehind
      rw [List.cons_append, within_other hopens, ih ((fits_other hopens).1 hfits) hbehind, List.cons_append]
    | some container =>
      cases room with
      | zero => exact absurd hfits (not_fits_zero hopens)
      | succ room =>
        rw [(count_open hopens written).1, (count_open hopens written).2] at hbehind
        rw [List.cons_append, within_open hopens, ih ((fits_open hopens).1 hfits) (by omega), List.cons_append]

/-- No room is left behind tokens that leave as many containers open as there was room for. -/
theorem within_append_full (hfits : Fits room written) (hfull : opened written = closed written + room) :
    within room (written ++ rest) = written ++ within 0 rest :=
  within_append hfits hfull

/-- Where the tokens are cut, the container is one too many; any other fault was there before. -/
theorem within_eq_fault (h : within room all = front ++ .fault error :: rest) : Fits room front ∧
    ((∃ container token more, error = .tooDeep container ∧ token.opens? = some container ∧
        all = front ++ token :: more ∧ opened front = closed front + room) ∨
      ∃ more, all = front ++ .fault error :: more) := by
  induction front generalizing room all with
  | nil =>
    refine ⟨fits_nil room, ?_⟩
    cases all with
    | nil => cases h
    | cons token rest =>
      cases hopens : token.opens? with
      | none =>
        rw [within_other hopens] at h
        cases (List.cons.inj h).1
        exact Or.inr ⟨rest, rfl⟩
      | some container =>
        cases room with
        | zero =>
          rw [within_full hopens] at h
          cases h
          exact Or.inl ⟨container, token, rest, rfl, hopens, rfl, rfl⟩
        | succ room =>
          rw [within_open hopens] at h
          cases (List.cons.inj h).1
          cases hopens
  | cons first front ih =>
    cases all with
    | nil => cases h
    | cons token rest =>
      cases hopens : token.opens? with
      | none =>
        rw [within_other hopens] at h
        obtain ⟨rfl, hrest⟩ := List.cons.inj h
        obtain ⟨hfits, hcases⟩ := ih hrest
        refine ⟨(fits_other hopens).2 hfits, ?_⟩
        rw [(count_other room hopens front).1, (count_other room hopens front).2]
        obtain ⟨container, other, more, herror, hother, rfl, hfull⟩ | ⟨more, rfl⟩ := hcases
        · exact Or.inl ⟨container, other, more, herror, hother, rfl, hfull⟩
        · exact Or.inr ⟨more, rfl⟩
      | some container =>
        cases room with
        | zero =>
          rw [within_full hopens] at h
          simp at h
        | succ room =>
          rw [within_open hopens] at h
          obtain ⟨rfl, hrest⟩ := List.cons.inj h
          obtain ⟨hfits, hcases⟩ := ih hrest
          refine ⟨(fits_open hopens).2 hfits, ?_⟩
          rw [(count_open hopens front).1, (count_open hopens front).2]
          obtain ⟨container, other, more, herror, hother, rfl, hfull⟩ | ⟨more, rfl⟩ := hcases
          · exact Or.inl ⟨container, other, more, herror, hother, rfl, by omega⟩
          · exact Or.inr ⟨more, rfl⟩

/-- Either there is room for all tokens, or one of them opens a container that is one too many. -/
theorem fits_or_full (room : Nat) (written : List Token) : Fits room written ∨
    ∃ front token container more, written = front ++ token :: more ∧ token.opens? = some container ∧
      Fits room front ∧ opened front = closed front + room := by
  induction written generalizing room with
  | nil => exact Or.inl (fits_nil room)
  | cons token written ih =>
    cases hopens : token.opens? with
    | none =>
      rw [fits_other hopens]
      obtain hfits | ⟨front, other, container, more, rfl, hother, hfits, hfull⟩ :=
        ih (if token.closes then room + 1 else room)
      · exact Or.inl hfits
      · refine Or.inr ⟨token :: front, other, container, more, rfl, hother, (fits_other hopens).2 hfits, ?_⟩
        rw [(count_other room hopens front).1, (count_other room hopens front).2, hfull]
    | some container =>
      cases room with
      | zero => exact Or.inr ⟨[], token, container, written, rfl, hopens, fits_nil 0, rfl⟩
      | succ room =>
        rw [fits_open hopens]
        obtain hfits | ⟨front, other, container, more, rfl, hother, hfits, hfull⟩ := ih room
        · exact Or.inl hfits
        · refine Or.inr ⟨token :: front, other, container, more, rfl, hother, (fits_open hopens).2 hfits, ?_⟩
          rw [(count_open hopens front).1, (count_open hopens front).2]
          omega

/-- Either a reader gets to see all tokens, or those in front of one that opens a container too many. -/
theorem bounded_cases (limit : Option Nat) (all : List Token) : bounded limit all = all ∨
    ∃ front token container more, all = front ++ token :: more ∧ token.opens? = some container ∧
      bounded limit all = front ++ [.fault (.tooDeep container)] := by
  cases limit with
  | none => exact Or.inl rfl
  | some room =>
    obtain hfits | ⟨front, token, container, more, rfl, htoken, hfits, hfull⟩ := fits_or_full room all
    · left
      have hroom : opened all + (closed all + room - opened all) = closed all + room :=
        Nat.add_sub_of_le (hfits all List.prefix_rfl)
      have hall : within room (all ++ []) = all ++ within _ [] := within_append hfits hroom
      rwa [List.append_nil, within, List.append_nil] at hall
    · right
      refine ⟨front, token, container, more, rfl, htoken, ?_⟩
      rw [bounded, within_append_full hfits hfull, within_full htoken]

theorem bounded_eq_fault (h : bounded limit all = front ++ .fault error :: rest) :
    (∀ room ∈ limit, Fits room front) ∧
      ((∃ room container token more, limit = some room ∧ error = .tooDeep container ∧
          token.opens? = some container ∧ all = front ++ token :: more ∧
          opened front = closed front + room) ∨
        ∃ more, all = front ++ .fault error :: more) := by
  cases limit with
  | none => exact ⟨nofun, Or.inr ⟨rest, h⟩⟩
  | some room =>
    obtain ⟨hfits, ⟨container, token, more, herror, htoken, hall, hfull⟩ | hmore⟩ := within_eq_fault h
    · refine ⟨fun other hother => Option.some.inj hother ▸ hfits, Or.inl ?_⟩
      exact ⟨room, container, token, more, rfl, herror, htoken, hall, hfull⟩
    · exact ⟨fun other hother => Option.some.inj hother ▸ hfits, Or.inr hmore⟩

end Room

/-! ### Where reading gets stuck -/

section Stuck

variable {written rest : List Token} {token : Token} {container : Container} {l behind : List Char}

theorem isStart_of_opens? (h : token.opens? = some container) : token.IsStart := by
  cases token <;> trivial

theorem isStart_of_not_isShort (h : ¬ token.IsShort) : token.IsStart := by
  cases token with
  | scalar => trivial
  | _ => exact absurd (fun _ _ _ _ htoken => by cases htoken) h

theorem Lexeme.eq_bracket (h : Lexeme token l) (htoken : token.opens? = some container) :
    l = [container.bracket] := by
  cases h <;> cases htoken <;> rfl

theorem lexeme_bracket (container : Container) :
    ∃ token, Lexeme token [container.bracket] ∧ token.IsMark ∧ token.opens? = some container := by
  cases container with
  | array => exact ⟨.openArray, .openArray, trivial, rfl⟩
  | object => exact ⟨.openObject, .openObject, trivial, rfl⟩

theorem Reaches.tokens_eq (h : Reaches limit text written behind) :
    tokens text = written ++ tokens behind := by
  obtain ⟨front, rfl, hfront⟩ := h.exists_front
  obtain ⟨hseparated, hmark⟩ := h.awaits.separated
  obtain hall | ⟨before, token, more, _, rfl, hlong, _⟩ :=
    tokens_of_lexes hfront hseparated fun last hlast hno => absurd (hmark last hlast) hno
  · exact hall
  · exact absurd (h.isShort token (List.mem_append_right before List.mem_cons_self)) hlong

theorem Stuck.ne_malformed (h : Stuck limit text error) : error ≠ .malformed := by
  cases h <;> nofun

/-- A reader that gets stuck sees the fault behind the beginning of a document. -/
theorem Stuck.bounded_eq (h : Stuck limit text error) :
    ∃ front, bounded limit (tokens text) = front ++ [.fault error] ∧ Awaits .value front := by
  cases h with
  | @tooManyDigits written rest count hreaches hlong =>
    refine ⟨written, ?_, hreaches.awaits⟩
    rw [hreaches.tokens_eq, tokens_of_overlong hlong]
    cases limit with
    | none => rfl
    | some room =>
      have hfits := hreaches.fits room rfl
      rw [bounded, within_append hfits (Nat.add_sub_of_le (hfits written List.prefix_rfl)), within_other rfl,
        within]
  | @tooDeep written rest room container hreaches hlimit hfull =>
    refine ⟨written, ?_, hreaches.awaits⟩
    obtain ⟨token, hlexeme, hmark, htoken⟩ := lexeme_bracket container
    have htokens : tokens (container.bracket :: rest) = token :: tokens rest := by
      obtain hall | ⟨_, hlong, _⟩ := tokens_append hlexeme (absurd hmark : _ → EndsNumber rest)
      · exact hall
      · exact absurd hmark.isShort hlong
    rw [hreaches.tokens_eq, htokens, hlimit, bounded,
      within_append_full (hreaches.fits room hlimit) hfull, within_full htoken]

/-- A fault that a reader sees behind the beginning of a document is what it gets stuck over. -/
theorem stuck_of_bounded {front : List Token} (h : bounded limit (tokens text) = front ++ .fault error :: rest)
    (hfront : Awaits .value front) (hother : error ≠ .malformed) : Stuck limit text error := by
  have hreaches : ∀ {before behind : List Char} {next : Token} {more : List Token},
      tokens text = front ++ next :: more → text = before ++ behind → Lexes front before →
        (∀ room ∈ limit, Fits room front) → Reaches limit text front behind := by
    intro before behind next more hall htext hlexes hfits
    refine ⟨⟨before, htext, hlexes⟩, hfront, fun token htoken => ?_, hfits⟩
    have hmem : token ∈ tokens text := hall ▸ List.mem_append_left _ htoken
    exact isShort_of_mem_tokens hmem
  obtain ⟨hfits, ⟨room, container, next, more, hlimit, rfl, hnext, hall, hfull⟩ | ⟨more, hall⟩⟩ :=
    bounded_eq_fault h
  · obtain ⟨before, behind, htext, hlexes, ⟨l, after, rfl, hl⟩ | hending⟩ := tokens_cut hall
    · rw [hl.eq_bracket hnext] at htext
      exact .tooDeep (hreaches hall htext hlexes hfits) hlimit hfull
    · cases hending <;> cases hnext
  · obtain ⟨before, behind, htext, hlexes, ⟨l, after, rfl, hl⟩ | hending⟩ := tokens_cut hall
    · exact absurd rfl (hl.ne_fault error)
    · cases hending with
      | malformed => exact absurd rfl hother
      | overlong hlong => exact .tooManyDigits (hreaches hall htext hlexes hfits) hlong

end Stuck

/-- Reading breaks off exactly where it gets stuck. -/
theorem read_eq_error_iff (hother : error ≠ .malformed) :
    Json.read text limit = .error error ↔ Stuck limit text error := by
  rw [Json.read, readTokens_eq_error_iff hother]
  constructor
  · rintro ⟨front, rest, hbounded, hfront⟩
    exact stuck_of_bounded hbounded hfront hother
  · intro h
    obtain ⟨front, hbounded, hfront⟩ := h.bounded_eq
    exact ⟨front, [], hbounded, hfront⟩

theorem document_of_read (h : Json.read text limit = .ok v) : Document text v := by
  have hwritten := readTokens_eq_ok_iff.1 h
  obtain hall | ⟨front, _, container, _, _, _, hcut⟩ := bounded_cases limit (tokens text)
  · rw [hall] at hwritten
    obtain ⟨front, rest, written, ending, rfl, hfront, hending, hsplit⟩ := tokens_split text
    rw [hsplit] at hwritten
    cases hending with
    | done =>
      rw [List.append_nil] at hwritten ⊢
      exact ⟨written, hfront, hwritten⟩
    | malformed | overlong =>
      exact absurd (List.mem_append_right written List.mem_cons_self) (hwritten.ne_fault _)
  · rw [hcut] at hwritten
    exact absurd (List.mem_append_right front List.mem_cons_self) (hwritten.ne_fault _)

/-- A document is read, unless the reader gets stuck in it. -/
theorem read_of_document (h : Document text v) (hstuck : ∀ e, ¬ Stuck limit text e) :
    Json.read text limit = .ok v := by
  obtain ⟨written, hlexes, hwritten⟩ := h
  have hfree : ∀ {front more rest : List Token} {token : Token} {e : ReadError},
      written = front ++ token :: more → token.IsStart → e ≠ .malformed →
        bounded limit (tokens text) ≠ front ++ .fault e :: rest := by
    intro front more rest token e hfront htoken hother hbounded
    exact hstuck e (stuck_of_bounded hbounded (hwritten.awaits hfront htoken) hother)
  have hend : ∀ last ∈ written.getLast?, ¬ last.IsMark → EndsNumber [] := by
    intro last _ _ c hc
    cases hc
  have htokens := tokens_of_lexes hlexes hwritten.separated hend
  rw [List.append_nil, tokens, List.append_nil] at htokens
  rw [Json.read, readTokens_eq_ok_iff]
  obtain hall | ⟨front, token, container, more, hall, htoken, hcut⟩ := bounded_cases limit (tokens text)
  · obtain htokens | ⟨front, token, more, count, hfront, hlong, htokens⟩ := htokens
    · rwa [hall, htokens]
    · exact absurd (hall.trans htokens) (hfree hfront (isStart_of_not_isShort hlong) (by simp))
  · -- Whether or not an overlong integer comes later, the container is one of the document.
    obtain htokens | ⟨before, long, rest, count, hbefore, _, htokens⟩ := htokens
    · exact absurd hcut (hfree (htokens ▸ hall) (isStart_of_opens? htoken) (by simp))
    · rw [hall] at htokens
      have hne : Token.fault (.tooManyDigits count) ≠ token := by
        rintro rfl
        cases htoken
      obtain ⟨inner, rfl⟩ | ⟨inner, _, hinner⟩ := append_cons_cases hne htokens.symm
      · rw [List.append_assoc, List.cons_append] at hbefore
        exact absurd hcut (hfree hbefore (isStart_of_opens? htoken) (by simp))
      · simp at hinner

theorem read_eq_ok_iff : Json.read text limit = .ok v ↔ Document text v ∧ ∀ e, ¬ Stuck limit text e := by
  constructor
  · intro h
    refine ⟨document_of_read h, fun e hstuck => ?_⟩
    rw [(read_eq_error_iff hstuck.ne_malformed).2 hstuck] at h
    cases h
  · rintro ⟨hdocument, hstuck⟩
    exact read_of_document hdocument hstuck

theorem read_eq_malformed_iff : Json.read text limit = .error .malformed ↔
    (∀ v, ¬ Document text v) ∧ ∀ e, ¬ Stuck limit text e := by
  constructor
  · intro h
    have hstuck : ∀ e, ¬ Stuck limit text e := by
      intro e hstuck
      rw [(read_eq_error_iff hstuck.ne_malformed).2 hstuck] at h
      exact hstuck.ne_malformed (Except.error.inj h)
    refine ⟨fun v hdocument => ?_, hstuck⟩
    rw [read_of_document hdocument hstuck] at h
    cases h
  · rintro ⟨hdocument, hstuck⟩
    cases hread : Json.read text limit with
    | ok v => exact absurd (document_of_read hread) (hdocument v)
    | error e =>
      by_cases hmalformed : e = .malformed
      · rw [hmalformed]
      · exact absurd ((read_eq_error_iff hmalformed).1 hread) (hstuck e)

/-! ### Readers without a limit -/

/-- Where nesting has no limit, a reader gets stuck over nothing but an integer, in a place where a number can begin. -/
theorem Stuck.hasOverlongInteger (h : Stuck none text error) : ∃ count, HasOverlongInteger count text := by
  cases h with
  | @tooManyDigits written rest count hreaches hlong =>
    obtain ⟨front, htext, hfront⟩ := hreaches.exists_front
    exact ⟨count, front, written, rest, htext, hfront, hreaches.awaits.separated.2, hlong⟩
  | tooDeep _ hlimit => cases hlimit

/-- Reading takes exactly the documents, and no other failure than over an integer that is too long keeps one from being read. -/
theorem read_cases (hshort : ∀ count, ¬ HasOverlongInteger count text) :
    (∀ v, Json.read text = .ok v ↔ Document text v) ∧
      (Json.read text = .error .malformed ↔ ∀ v, ¬ Document text v) := by
  have hstuck : ∀ e, ¬ Stuck none text e := by
    intro e h
    obtain ⟨count, hlong⟩ := h.hasOverlongInteger
    exact hshort count hlong
  constructor
  · intro v
    rw [read_eq_ok_iff, and_iff_left hstuck]
  · rw [read_eq_malformed_iff, and_iff_left hstuck]

end ColonySearch.Json
