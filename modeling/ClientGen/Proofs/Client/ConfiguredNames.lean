import ClientGen.Proofs.Client.LegalNames
import ClientGen.Proofs.Java.Scoping
import ClientGen.Proofs.Java.TidyCode
import ClientGen.Proofs.Text.Trimming

/-
  Classes that are configured by their names.

  Main declarations include:
    * `IsSegment`
    * `IsDottedName`
    * `isQualifiedName_iff`
    * `canonical_ofQualified`
    * `IsConfigured`
    * `resolveClass_canonical`
    * `resolveClass_outcome`

  A name is cut at all dots to see whether it is accepted,
  and at the last one to find the package.  Neither cut
  loses anything: the class that is found is called by the
  name that was looked at.
-/

namespace ClientGen.Java

open ClientGen.Text

------------------------------------------------------------
-- Segments
------------------------------------------------------------

/- Letters, the underscore and the dollar sign. -/
def BeginsSegment (c : Char) : Prop :=
  c.isAlpha = true ∨ c = '_' ∨ c = '$'

/-
  A word of such characters and, from the second one on, of
  digits, that the language has not reserved.
-/
structure IsSegment (segment : String) : Prop where
  form :
    ∃ c rest, segment.toList = c :: rest ∧ BeginsSegment c ∧
      ∀ d ∈ rest, BeginsSegment d ∨ d.isDigit = true
  unreserved : segment ∉ keywords

/- One segment, or several with dots between them. -/
def IsDottedName (name : String) : Prop :=
  ∃ segments, segments ≠ [] ∧
    (∀ segment ∈ segments, IsSegment segment) ∧
    name = joinWith "." segments

theorem isIdentifierStart_iff
    {c : Char} :
    isIdentifierStart c = true ↔ BeginsSegment c := by
  have hCapital :
      (decide ('A' ≤ c) && decide (c ≤ 'Z')) = c.isUpper :=
    (Bool.decide_and _ _).symm
  have hLetter :
      (c.isUpper ||
        (decide ('a' ≤ c) && decide (c ≤ 'z'))) = c.isAlpha :=
    rfl
  unfold isIdentifierStart BeginsSegment
  rw [hCapital, hLetter]
  simp [or_assoc]

theorem isIdentifierPart_iff
    {c : Char} :
    isIdentifierPart c = true ↔
      BeginsSegment c ∨ c.isDigit = true := by
  have hDigit :
      (decide ('0' ≤ c) && decide (c ≤ '9')) = c.isDigit :=
    rfl
  rw [← isIdentifierStart_iff, isIdentifierPart, hDigit,
    Bool.or_eq_true]

/- Segments are identifiers. -/
theorem isIdentifier_iff
    {name : String} :
    isIdentifier name = true ↔ IsSegment name := by
  have hWord : isKeyword name = true ↔ name ∈ keywords :=
    List.contains_iff_mem
  unfold isIdentifier
  rw [Bool.and_eq_true, Bool.not_eq_true', Bool.eq_false_iff,
    Ne, hWord]
  constructor
  · rintro ⟨hForm, hFree⟩
    refine ⟨?_, hFree⟩
    cases hChars : name.toList with
    | nil => simp [hChars, hasIdentifierForm] at hForm
    | cons c rest =>
        rw [hChars] at hForm
        simp only [hasIdentifierForm, Bool.and_eq_true,
          List.all_eq_true, isIdentifierStart_iff,
          isIdentifierPart_iff] at hForm
        exact ⟨c, rest, rfl, hForm⟩
  · rintro ⟨⟨c, rest, hChars, hForm⟩, hFree⟩
    refine ⟨?_, hFree⟩
    rw [hChars]
    simpa only [hasIdentifierForm, Bool.and_eq_true,
      List.all_eq_true, isIdentifierStart_iff,
      isIdentifierPart_iff] using hForm

/- Dotted names are the ones with segments for pieces. -/
theorem isQualifiedName_iff
    {name : String} :
    isQualifiedName name = true ↔ IsDottedName name := by
  constructor
  · intro hName
    refine ⟨(pieces '.' name.toList).map String.ofList,
      ?_, ?_, (joinWith_pieces '.' name).symm⟩
    · simpa using pieces_ne_nil name.toList
    · intro segment hSegment
      rcases List.mem_map.mp hSegment with
        ⟨piece, hPiece, rfl⟩
      exact isIdentifier_iff.mp
        (pieces_isIdentifier hName hPiece)
  · rintro ⟨segments, hSome, hSegments, rfl⟩
    have hUndotted :
        ∀ segment ∈ segments, '.' ∉ segment.toList :=
      fun segment hMem => undotted_of_isIdentifier
        (isIdentifier_iff.mpr (hSegments segment hMem))
    unfold isQualifiedName
    rw [ClassName.pieces_joinWith_dot hSome hUndotted,
      List.all_map, List.all_eq_true]
    intro segment hMem
    simpa using
      isIdentifier_iff.mpr (hSegments segment hMem)

/- A dotted name has no blanks around it. -/
theorem trimmed_of_isQualifiedName
    {name : String}
    (hName : isQualifiedName name = true) :
    trimmed name = name := by
  have hFull : ∀ c ∈ name.toList, isBlank c = false :=
    isBlank_of_names
      (ClassName.not_mem_of_isQualifiedName hName)
  have hStrips : Strips name.toList name.toList :=
    { blanks := ⟨[], [], by simp [AllBlank]⟩
      first := fun c hC => hFull c (List.mem_of_head? hC)
      last := fun c hC => hFull c (List.mem_of_getLast? hC) }
  unfold trimmed
  rw [strips_iff.mp hStrips, String.ofList_toList]

------------------------------------------------------------
-- Classes
------------------------------------------------------------

namespace ClassName

/- The class of a full name has that name. -/
theorem canonical_ofQualified
    {name : String}
    (hName : isQualifiedName name = true)
    (hDot : '.' ∈ name.toList) :
    (ofQualified name).canonical = name := by
  have hLegal := isLegal_ofQualified hName hDot
  rcases exists_last_dot hDot with
    ⟨package, simple, hSimple, hChars⟩
  rw [ofQualified_eq hChars hSimple] at hLegal ⊢
  rw [canonical_of_topLevel hLegal.packaged.1 rfl]
  apply String.toList_injective
  simp [inPackage, hChars]

/- Such a class is at the top of its file. -/
theorem nested_ofQualified
    (name : String) :
    (ofQualified name).nested = [] := by
  unfold ofQualified
  simp only
  split <;> rfl

end ClassName

end ClientGen.Java

namespace ClientGen.Client

open ClientGen.Java ClientGen.Text

variable {name defaultPackage what : String}

------------------------------------------------------------
-- Resolving
------------------------------------------------------------

/- A name with dots tells the package itself. -/
theorem resolveClass_dotted
    (hName : isQualifiedName (trimmed name) = true)
    (hDot : '.' ∈ (trimmed name).toList) :
    resolveClass name defaultPackage what =
      .ok (ClassName.ofQualified (trimmed name)) := by
  have hContains : (trimmed name).toList.contains '.' = true :=
    List.contains_iff_mem.mpr hDot
  simp only [resolveClass, hName, hContains, if_true]

/- One without them is a class of the default package. -/
theorem resolveClass_undotted
    (hName : isQualifiedName (trimmed name) = true)
    (hDot : '.' ∉ (trimmed name).toList) :
    resolveClass name defaultPackage what =
      .ok (ClassName.inPackage defaultPackage
        (trimmed name)) := by
  have hContains :
      ¬ (trimmed name).toList.contains '.' = true := by
    rwa [List.contains_iff_mem]
  simp only [resolveClass, hName, if_true, if_neg hContains]

/- Any other name is refused. -/
theorem resolveClass_refused
    (hName : ¬ isQualifiedName (trimmed name) = true) :
    resolveClass name defaultPackage what =
      .error (.notClass what (trimmed name)) := by
  simp only [resolveClass, if_neg hName]

/- The full name of a legal class means that class. -/
theorem resolveClass_canonical
    {c : ClassName}
    (hLegal : c.IsLegal)
    (hTop : c.nested = []) :
    resolveClass c.canonical defaultPackage what = .ok c := by
  have hPackage : c.package ≠ "" := hLegal.packaged.1
  have hSimple : isIdentifier c.topLevel = true :=
    hLegal.names c.topLevel List.mem_cons_self
  have hUndotted : '.' ∉ c.topLevel.toList :=
    undotted_of_isIdentifier hSimple
  have hSpelled :
      c.canonical = c.package ++ "." ++ c.topLevel :=
    ClassName.canonical_of_topLevel hPackage hTop
  have hName : isQualifiedName c.canonical = true := by
    rw [hSpelled]
    apply isQualifiedName_append hLegal.package
    rwa [isQualifiedName_of_undotted hUndotted]
  have hBare : trimmed c.canonical = c.canonical :=
    trimmed_of_isQualifiedName hName
  have hDot : '.' ∈ c.canonical.toList := by
    simp [hSpelled]
  rw [resolveClass_dotted (by rwa [hBare]) (by rwa [hBare]),
    hBare, ClassName.ofQualified_canonical hPackage hUndotted
      hTop]

------------------------------------------------------------
-- Configured Classes
------------------------------------------------------------

/-
  What the class is that a name without blanks around it is
  resolved to beside a default package.  Its full name can be
  configured in its place, whatever the default is then.
-/
structure IsConfigured
    (bare defaultPackage : String)
    (c : ClassName) :
    Prop where
  topLevel : c.nested = []
  segment : IsSegment c.topLevel
  dotted : '.' ∈ bare.toList → c.canonical = bare
  undotted :
    '.' ∉ bare.toList → defaultPackage ≠ "" →
      c.canonical = defaultPackage ++ "." ++ bare
  again :
    IsDottedName defaultPackage →
      ∀ package role,
        resolveClass c.canonical package role = .ok c

/- What a name is resolved to is such a class. -/
theorem isConfigured_of_resolveClass
    {c : ClassName}
    (hClass : resolveClass name defaultPackage what = .ok c) :
    IsConfigured (trimmed name) defaultPackage c := by
  have hAgain (hTop : c.nested = []) :
      IsDottedName defaultPackage →
        ∀ package role,
          resolveClass c.canonical package role = .ok c := by
    intro hDefault package role
    have hLegal : c.IsLegal :=
      isLegal_of_resolveClass
        (isQualifiedName_iff.mpr hDefault) hClass
    exact resolveClass_canonical hLegal hTop
  by_cases hName : isQualifiedName (trimmed name) = true
  · by_cases hDot : '.' ∈ (trimmed name).toList
    · rw [resolveClass_dotted hName hDot] at hClass
      rcases Except.ok.inj hClass with rfl
      have hLegal := ClassName.isLegal_ofQualified hName hDot
      have hTop := ClassName.nested_ofQualified (trimmed name)
      exact
        { topLevel := hTop
          segment := isIdentifier_iff.mp
            (hLegal.names _ List.mem_cons_self)
          dotted := fun _ =>
            ClassName.canonical_ofQualified hName hDot
          undotted := fun hNone => absurd hDot hNone
          again := hAgain hTop }
    · rw [resolveClass_undotted hName hDot] at hClass
      rcases Except.ok.inj hClass with rfl
      rw [isQualifiedName_of_undotted hDot] at hName
      exact
        { topLevel := rfl
          segment := isIdentifier_iff.mp hName
          dotted := fun hSome => absurd hSome hDot
          undotted := fun _ hDefault =>
            ClassName.canonical_of_topLevel hDefault rfl
          again := hAgain rfl }
  · rw [resolveClass_refused hName] at hClass
    cases hClass

/-
  A name means a class if there are segments with dots
  between them but for the blanks around it, and any other
  is refused with what is left of it.
-/
theorem resolveClass_outcome
    (name defaultPackage what : String) :
    (∀ bare : String,
      Strips name.toList bare.toList ↔ trimmed name = bare) ∧
    ((∃ c, resolveClass name defaultPackage what = .ok c) ↔
      IsDottedName (trimmed name)) ∧
    (¬ IsDottedName (trimmed name) →
      resolveClass name defaultPackage what =
        .error (.notClass what (trimmed name))) ∧
    ∀ c, resolveClass name defaultPackage what = .ok c →
      IsConfigured (trimmed name) defaultPackage c := by
  refine ⟨?bare, ?accepted, ?refused, ?_⟩
  case bare =>
    intro bare
    rw [strips_iff, trimmed]
    constructor
    · intro hKept
      rw [hKept, String.ofList_toList]
    · rintro rfl
      rw [String.toList_ofList]
  case accepted =>
    rw [← isQualifiedName_iff]
    constructor
    · rintro ⟨c, hClass⟩
      by_contra hName
      rw [resolveClass_refused hName] at hClass
      cases hClass
    · intro hName
      by_cases hDot : '.' ∈ (trimmed name).toList
      · exact ⟨_, resolveClass_dotted hName hDot⟩
      · exact ⟨_, resolveClass_undotted hName hDot⟩
  case refused =>
    rw [← isQualifiedName_iff]
    exact resolveClass_refused
  exact fun c hClass => isConfigured_of_resolveClass hClass

/- A wide blank and the end of a line around such a name. -/
theorem resolveClass_outcome_spacedName :
    resolveClass "\u2003Retry\n" "com.example" "retry" =
        .ok (ClassName.inPackage "com.example" "Retry") ∧
      ClassName.canonical ⟨"com.example", "Retry", []⟩ =
        "com.example.Retry" ∧
      ∀ package role,
        resolveClass "com.example.Retry" package role =
          .ok ⟨"com.example", "Retry", []⟩ := by
  have hClass :
      resolveClass "\u2003Retry\n" "com.example" "retry" =
        .ok ⟨"com.example", "Retry", []⟩ := by
    decide
  have hBare : trimmed "\u2003Retry\n" = "Retry" := by
    decide
  have hDefault : IsDottedName "com.example" :=
    isQualifiedName_iff.mp (by decide)
  rcases resolveClass_outcome "\u2003Retry\n" "com.example"
      "retry" with
    ⟨-, -, -, hConfigured⟩
  have hRetry := hConfigured _ hClass
  rw [hBare] at hRetry
  have hCanonical :
      ClassName.canonical ⟨"com.example", "Retry", []⟩ =
        "com.example.Retry" :=
    hRetry.undotted (by decide) (by decide)
  have hAgain := hRetry.again hDefault
  rw [hCanonical] at hAgain
  exact ⟨hClass, hCanonical, hAgain⟩

end ClientGen.Client
