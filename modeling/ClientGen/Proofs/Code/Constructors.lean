import ClientGen.Java.Declaration
import ClientGen.Proofs.Code.Creations
import Mathlib.Data.List.Nodup

/-
  Constructors: what they are called with, whether they hand
  on to another one, and which fields they set.

  Main declarations include:
    * `arguments?`
    * `TypeDecl.constructorCalls`
    * `TypeDecl.Accepts`
    * `Code.delegation?`
    * `Code.SetsFinalFields`
    * `constructorCalls_new`
    * `Code.Assigns`

  Arguments are the code between commas, brackets within them
  aside.  A type that is written with arguments is one token,
  so that no comma of its own is in the way.
-/

namespace ClientGen.Java

open Code

------------------------------------------------------------
-- Arguments
------------------------------------------------------------

/-
  The arguments up to the bracket that closes them, where
  some of the first has been read, and brackets have been
  opened in it.
-/
def argumentsFrom
    (depth : Nat)
    (read : List Token) :
    List Token → Option (List (List Token))
  | [] => none
  | .symbol '(' :: rest =>
      argumentsFrom (depth + 1) (read ++ [.symbol '(']) rest
  | .symbol ')' :: rest =>
      match depth with
      | 0 => some [read]
      | depth + 1 =>
          argumentsFrom depth (read ++ [.symbol ')']) rest
  | .symbol ',' :: rest =>
      match depth with
      | 0 => (argumentsFrom 0 [] rest).map (read :: ·)
      | depth + 1 =>
          argumentsFrom (depth + 1) (read ++ [.symbol ','])
            rest
  | t :: rest => argumentsFrom depth (read ++ [t]) rest

/- The arguments in the brackets that the tokens begin with. -/
def arguments? : List Token → Option (List (List Token))
  | .symbol '(' :: .symbol ')' :: _ => some []
  | .symbol '(' :: rest => argumentsFrom 0 [] rest
  | _ => none

------------------------------------------------------------
-- Calls
------------------------------------------------------------

/- What objects of a class are made with. -/
def constructorCalls
    (c : ClassName)
    (ts : List Token) :
    List (Option (List (List Token))) :=
  ((creations ts).filter (·.1 = .class c)).map (arguments? ·.2)

namespace TypeDecl

/- The fields of that name. -/
def fieldsNamed
    (d : TypeDecl)
    (name : String) :
    List Field :=
  d.fields.filter (·.name == name)

/- The methods of that name. -/
def methodsNamed
    (d : TypeDecl)
    (name : String) :
    List Method :=
  d.methods.filter (·.name == name)

/- All code of the type: values of fields, and methods. -/
def fragments
    (d : TypeDecl) :
    List Code :=
  d.fields.filterMap (·.initializer) ++ d.methods.map (·.body)

/- What the code of the type makes such objects with. -/
def constructorCalls
    (d : TypeDecl)
    (c : ClassName) :
    List (Option (List (List Token))) :=
  d.fragments.flatMap fun code =>
    Java.constructorCalls c code.tokens

/- A constructor takes that many arguments. -/
def Accepts
    (d : TypeDecl)
    (call : Option (List (List Token))) :
    Prop :=
  ∃ arguments, call = some arguments ∧
    ∃ m ∈ d.constructors,
      m.parameters.length = arguments.length

end TypeDecl

/- A single object is of that class or of another. -/
theorem constructorCalls_new
    {ts us : List Token}
    (hNone : .word "new" ∉ ts ++ us)
    (c made : ClassName) :
    constructorCalls c
        (ts ++ .word "new" :: .type (.class made) :: us) =
      if made = c then [arguments? us] else [] := by
  rw [List.mem_append, not_or] at hNone
  unfold constructorCalls
  rw [creations_new hNone.1, creations_eq_nil hNone.2]
  by_cases hMade : made = c <;> simp [hMade]

/- Code that does not mention the class makes no object. -/
theorem constructorCalls_eq_nil
    {c : ClassName}
    {parts : List Part}
    (hNone : .type (.class c) ∉ parts) :
    constructorCalls c (ofParts parts).tokens = [] := by
  unfold constructorCalls
  rw [List.map_eq_nil_iff, List.filter_eq_nil_iff]
  rintro ⟨t, rest⟩ hMem
  simp only [decide_eq_true_eq]
  rintro rfl
  exact hNone (mem_of_mem_tokens (mem_of_mem_creations hMem))

------------------------------------------------------------
-- Delegation
------------------------------------------------------------

/- What the code hands on to a constructor, if it does. -/
def Code.delegation?
    (code : Code) :
    Option (List (List Token)) :=
  match code.tokens with
  | .word w :: rest =>
      if w = "this" then arguments? rest else none
  | _ => none

------------------------------------------------------------
-- Fields
------------------------------------------------------------

/- The field that a statement sets, if it sets one. -/
def assignedField? : List Token → Option String
  | .word this :: .symbol '.' :: .word w :: .symbol '=' :: _ =>
      if this = "this" then some w else none
  | _ => none

/- The fields that the code sets, each time. -/
def Code.assignedFields
    (code : Code) :
    List String :=
  code.statements.filterMap assignedField?

/-
  The code sets each of the final fields once, and nothing
  but fields.
-/
structure Code.SetsFinalFields
    (code : Code)
    (fields : List Field) :
    Prop where
  once :
    ∀ f ∈ fields, .final ∈ f.modifiers →
      code.assignedFields.count f.name = 1
  alone :
    code.tokens.count (.symbol '=') =
      code.assignedFields.length

/- A statement that sets a field and does nothing else. -/
structure IsAssignment
    (field : String)
    (ts : List Token) :
    Prop where
  assigned : assignedField? ts = some field
  single : ts.count (.symbol '=') = 1
  unbroken : .symbol ';' ∉ ts

/- A statement that sets a field begins with it. -/
theorem IsAssignment.exists_eq
    {field : String}
    {ts : List Token}
    (hTs : IsAssignment field ts) :
    ∃ rest,
      ts = .word "this" :: .symbol '.' :: .word field ::
        .symbol '=' :: rest := by
  have hAssigned := hTs.assigned
  unfold assignedField? at hAssigned
  split at hAssigned
  · split_ifs at hAssigned with hThis
    cases hAssigned
    exact ⟨_, by rw [hThis]⟩
  · cases hAssigned

/- The tokens of a statement that sets a field. -/
def assignmentTokens
    (field : String)
    (value : List Token) :
    List Token :=
  [.word "this", .symbol '.', .word field, .symbol '='] ++
    value

/- It sets that field, if its value is a plain expression. -/
theorem isAssignment_assignmentTokens
    {field : String}
    {value : List Token}
    (hSingle : .symbol '=' ∉ value)
    (hUnbroken : .symbol ';' ∉ value) :
    IsAssignment field (assignmentTokens field value) := by
  constructor
  case assigned => rfl
  case single =>
    simp [assignmentTokens, List.count_eq_zero.mpr hSingle]
  case unbroken => simp [assignmentTokens, hUnbroken]

namespace Code

/- The parts are statements that set these fields. -/
def Assigns
    (parts : List Part)
    (fields : List String) :
    Prop :=
  ∃ sts,
    Reads parts (sts.flatMap (· ++ [.symbol ';'])) ∧
      List.Forall₂ IsAssignment fields sts

variable {a b parts : List Part}
variable {fields others : List String}

/- One statement sets one field. -/
theorem assigns_single
    {field : String}
    {ts : List Token}
    (hReads : Reads parts (ts ++ [.symbol ';']))
    (hTs : IsAssignment field ts) :
    Assigns parts [field] :=
  ⟨[ts], by simpa using hReads, .cons hTs .nil⟩

/- Without a statement nothing is set. -/
theorem assigns_nil :
    Assigns [] [] :=
  ⟨[], reads_nil, .nil⟩

/- Statements on end set what each of them sets. -/
theorem Assigns.append
    (hA : Assigns a fields)
    (hB : Assigns b others) :
    Assigns (a ++ b) (fields ++ others) := by
  rcases hA with ⟨sts, hSts, hEach⟩
  rcases hB with ⟨more, hMore, hOthers⟩
  refine ⟨sts ++ more, ?_, List.rel_append hEach hOthers⟩
  rw [List.flatMap_append]
  exact hSts.append hMore

/- The fields that are set are found in the code. -/
theorem Assigns.assignedFields_eq
    (hAssigns : Assigns parts fields) :
    (ofParts parts).assignedFields = fields ∧
      (ofParts parts).tokens.count (.symbol '=') =
        fields.length := by
  rcases hAssigns with ⟨sts, hReads, hEach⟩
  have hUnbroken : ∀ ts ∈ sts, Token.symbol ';' ∉ ts := by
    clear hReads
    induction hEach with
    | nil => nofun
    | cons hFirst _ ih =>
        exact List.forall_mem_cons.mpr ⟨hFirst.unbroken, ih⟩
  have hStatements :
      (ofParts parts).statements = sts ++ [[]] := by
    unfold statements
    rw [hReads.tokens_eq, splitOn_flatMap hUnbroken]
  unfold assignedFields
  rw [hStatements, hReads.tokens_eq]
  clear hReads hUnbroken hStatements
  induction hEach with
  | nil => exact ⟨rfl, rfl⟩
  | cons hFirst _ ih =>
      refine ⟨?_, ?_⟩
      · rw [List.cons_append, List.filterMap_cons,
          hFirst.assigned, ih.1]
      · have hEnd :
            [Token.symbol ';'].count (.symbol '=') = 0 := by
          decide
        rw [List.flatMap_cons, List.count_append,
          List.count_append, hFirst.single, hEnd, ih.2,
          List.length_cons]
        omega

/- Every final field is set if none is set twice. -/
theorem Assigns.setsFinalFields
    (hAssigns : Assigns parts fields)
    (hNodup : fields.Nodup)
    {declared : List Field}
    (hMem :
      ∀ f ∈ declared, .final ∈ f.modifiers →
        f.name ∈ fields) :
    (ofParts parts).SetsFinalFields declared := by
  rcases hAssigns.assignedFields_eq with ⟨hFields, hAlone⟩
  constructor
  case once =>
    intro f hF hFinal
    rw [hFields]
    exact List.count_eq_one_of_mem hNodup (hMem f hF hFinal)
  case alone => rw [hFields, hAlone]

/- Code that sets fields hands on to no constructor. -/
theorem Assigns.delegation?_eq_none
    (hAssigns : Assigns parts fields) :
    (ofParts parts).delegation? = none := by
  rcases hAssigns with ⟨sts, hReads, hEach⟩
  unfold delegation?
  rw [hReads.tokens_eq]
  cases hEach with
  | nil => rfl
  | cons hFirst _ =>
      rcases hFirst.exists_eq with ⟨rest, rfl⟩
      rfl

end Code

end ClientGen.Java
