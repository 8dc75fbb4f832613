import ColonySearch.Settings.Assignment

/-!
# Variables

Variables in the order in which their names first came up. A later assignment replaces the value and keeps the place. Values may refer to variables: a dollar sign before a name in braces stands for the value of that variable, and behind a colon and a dash a text may follow that stands in for a missing one. The variables assigned so far come before those of the environment.
-/

namespace ColonySearch.Settings

/-! ### References -/

/-- Whether a character can belong to a name inside a reference. -/
def isReferenceChar (c : Char) : Bool := c != '\x7d' && c != ':'

/-- The reference that a text begins with: the name, the text that stands in for a missing variable, and what follows the reference. -/
def reference? : List Char → Option (List Char × List Char × List Char)
  | '$' :: '\x7b' :: rest =>
    match rest.dropWhile isReferenceChar with
    | '\x7d' :: after => some (rest.takeWhile isReferenceChar, [], after)
    | ':' :: '-' :: more =>
      match more.dropWhile (· != '\x7d') with
      | _ :: after => some (rest.takeWhile isReferenceChar, more.takeWhile (· != '\x7d'), after)
      | [] => none
    | _ => none
  | _ => none

theorem length_lt_of_reference? {cs name standIn after : List Char}
    (h : reference? cs = some (name, standIn, after)) : after.length < cs.length := by
  unfold reference? at h
  split at h
  · rename_i rest
    have hd := (List.dropWhile_sublist (l := rest) isReferenceChar).length_le
    split at h
    · rename_i r hr
      simp only [Option.some.injEq, Prod.mk.injEq] at h
      simp only [hr, List.length_cons] at hd
      simp only [← h.2.2, List.length_cons]
      omega
    · rename_i more hr
      have hm := (List.dropWhile_sublist (l := more) (· != '\x7d')).length_le
      simp only [hr, List.length_cons] at hd
      split at h
      · rename_i c r hc
        simp only [Option.some.injEq, Prod.mk.injEq] at h
        simp only [hc, List.length_cons] at hm
        simp only [← h.2.2, List.length_cons]
        omega
      · simp at h
    · simp at h
  · simp at h

/-- The text with its references replaced; `value?` gives the values of the known variables. -/
def expand (value? : String → Option String) : List Char → List Char
  | [] => []
  | c :: rest =>
    match h : reference? (c :: rest) with
    | some (name, standIn, after) =>
      have := length_lt_of_reference? h
      ((value? (String.ofList name)).elim standIn String.toList) ++ expand value? after
    | none => c :: expand value? rest
termination_by cs => cs.length
decreasing_by
  · exact this
  · exact Nat.lt_succ_self _

/-! ### The table -/

/-- Names with their values, each name once. A name can be there without a value. -/
abbrev Variables := List (String × Option String)

namespace Variables

/-- Gives a variable a value, at its place or at the end. -/
def put (name : String) (value : Option String) : Variables → Variables
  | [] => [(name, value)]
  | entry :: rest => if entry.1 = name then (name, value) :: rest else entry :: put name value rest

/-- The value a reference to a name stands for. A name without a value stands for nothing. -/
def valueOf? (environment : List (String × String)) (vars : Variables) (name : String) :
    Option String :=
  match vars.lookup name with
  | some value => some (value.getD "")
  | none => environment.reverse.lookup name

/-- The value that an assignment gives behind those that left the variables, with its references replaced. -/
def meant (environment : List (String × String)) (vars : Variables) (a : Assignment) : Option String :=
  a.value.map fun text => String.ofList (expand (valueOf? environment vars) text.toList)

/-- What assignments give, one after the other, behind those that left the variables. -/
def given (environment : List (String × String)) : Variables → List Assignment →
    List (String × Option String)
  | _, [] => []
  | vars, a :: rest =>
    let value := meant environment vars a
    (a.name, value) :: given environment (vars.put a.name value) rest

/-- The table that the entries leave, put in one after the other. -/
def putAll (entries : List (String × Option String)) : Variables :=
  entries.foldl (fun vars entry => vars.put entry.1 entry.2) []

def ofText (environment : List (String × String)) (text : String) : Variables :=
  putAll (given environment [] (Assignment.readAll text))

end Variables

end ColonySearch.Settings
