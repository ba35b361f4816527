import ClientGen.Proofs.Java.Lexical
import ClientGen.Proofs.Text.CaseForms

/-
  Names that are derived by putting leading capitals in lower
  case.

  Main declarations include:
    * `decapitalized`
    * `lowerLeadingRun_eq_lowerFirst`
    * `uncapitalize_run`
    * `IsLowered`
    * `isLowered_lowerLeadingRun`
    * `uncapitalize_keyword_append`
    * `derivedNames_stable`

  How much of a name is put in lower case is counted on the
  run of capitals it begins with.  What has been put in lower
  case once is left as it is the second time.
-/

namespace ClientGen.Java

open ClientGen.Text

------------------------------------------------------------
-- Leading Capitals
------------------------------------------------------------

/- How many capitals a text begins with. -/
def leadingCapitals
    (cs : List Char) :
    Nat :=
  (cs.takeWhile isUppercase).length

/-
  How many capitals of a run are put in lower case: all, but
  of several not the one in front of a lower-case character,
  for that one begins the next word.
-/
def loweredOfRun
    (run : Nat)
    (next : Option Char) :
    Nat :=
  if 2 ≤ run ∧ next.any isLowercase = true then run - 1
  else run

/- A text with so many characters in lower case. -/
def lowerFirst
    (count : Nat)
    (cs : List Char) :
    List Char :=
  (cs.take count).flatMap lowerForm ++ cs.drop count

/- The name with its leading capitals in lower case. -/
def decapitalized
    (name : String) :
    String :=
  let run := leadingCapitals name.toList
  String.ofList
    (lowerFirst (loweredOfRun run name.toList[run]?)
      name.toList)

/-
  How many characters are put in lower case if the first of
  them counts as a capital, whatever it is.
-/
def loweredCharacters : List Char → Nat
  | [] => 0
  | _ :: rest =>
      let run := leadingCapitals rest
      loweredOfRun (run + 1) rest[run]?

/- A run goes on as long as there are capitals. -/
theorem leadingCapitals_cons
    (c : Char)
    (rest : List Char) :
    leadingCapitals (c :: rest) =
      if isUppercase c = true then leadingCapitals rest + 1
      else 0 := by
  unfold leadingCapitals
  rw [List.takeWhile_cons]
  split <;> rfl

/- The first character of a run of its own is counted. -/
theorem loweredCharacters_of_runContinues_eq_false
    {c : Char}
    {rest : List Char}
    (hStop : runContinues rest = false) :
    loweredCharacters (c :: rest) = 1 := by
  cases rest with
  | nil => rfl
  | cons d more =>
      by_cases hCapital : isUppercase d = true
      · -- Only a lower-case character ends the run here.
        cases more with
        | nil => simp [runContinues, hCapital] at hStop
        | cons e more =>
            have hLower : isLowercase e = true := by
              simpa [runContinues, hCapital] using hStop
            have hSmall :=
              isUppercase_eq_false_of_isLowercase hLower
            simp [loweredCharacters, leadingCapitals_cons,
              loweredOfRun, hCapital, hSmall, hLower]
      · simp [loweredCharacters, leadingCapitals_cons,
          loweredOfRun, hCapital]

/- In a run that goes on there is one more to be counted. -/
theorem loweredCharacters_of_runContinues
    {c : Char}
    {rest : List Char}
    (hRun : runContinues rest = true) :
    loweredCharacters (c :: rest) =
      loweredCharacters rest + 1 := by
  cases rest with
  | nil => cases hRun
  | cons d more =>
      have hCapital : isUppercase d = true := by
        cases more with
        | nil => exact hRun
        | cons e more =>
            exact (Bool.and_eq_true_iff.mp hRun).1
      have hNext :
          leadingCapitals more = 0 →
            (more[0]?).any isLowercase = false := by
        intro _
        cases more with
        | nil => rfl
        | cons e more =>
            simpa using (Bool.and_eq_true_iff.mp hRun).2
      simp only [loweredCharacters, leadingCapitals_cons,
        hCapital, if_true, List.getElem?_cons_succ]
      cases hLength : leadingCapitals more with
      | zero => simp [loweredOfRun, hNext hLength]
      | succ length =>
          unfold loweredOfRun
          split
          · rw [if_pos ⟨by omega, by simp_all⟩]
            omega
          · rw [if_neg (by simp_all)]

/- So many characters are put in lower case. -/
theorem lowerLeadingRun_eq_lowerFirst
    (cs : List Char) :
    lowerLeadingRun cs =
      lowerFirst (loweredCharacters cs) cs := by
  induction cs with
  | nil => rfl
  | cons c rest ih =>
      rw [lowerLeadingRun]
      by_cases hRun : runContinues rest = true
      · rw [if_pos hRun, ih,
          loweredCharacters_of_runContinues hRun]
        simp [lowerFirst]
      · rw [if_neg hRun,
          loweredCharacters_of_runContinues_eq_false
            (Bool.not_eq_true _ ▸ hRun)]
        simp [lowerFirst]

/-
  A name is put in lower case as if its first character were
  a capital.  For a name that begins with one that is its
  leading run; any other name should stay as it is, and does
  so only where all that is put in lower case was in it
  before.
-/
theorem uncapitalize_run
    (name : String) :
    uncapitalize name =
        String.ofList
          (lowerFirst (loweredCharacters name.toList)
            name.toList) ∧
      (uncapitalize name = decapitalized name ↔
        (name.toList.head?).any isUppercase = true ∨
          ∀ c ∈ name.toList.take
              (loweredCharacters name.toList),
            lowerForm c = [c]) := by
  have hRun :
      uncapitalize name =
        String.ofList
          (lowerFirst (loweredCharacters name.toList)
            name.toList) := by
    rw [uncapitalize, lowerLeadingRun_eq_lowerFirst]
  refine ⟨hRun, ?_⟩
  rw [hRun, decapitalized, String.ofList_inj]
  cases hChars : name.toList with
  | nil => simp [lowerFirst, loweredCharacters]
  | cons c rest =>
      by_cases hCapital : isUppercase c = true
      · simp [leadingCapitals_cons, loweredCharacters, hCapital]
      · have hNone :
            loweredOfRun (leadingCapitals (c :: rest))
              (c :: rest)[leadingCapitals (c :: rest)]? = 0 := by
          simp [leadingCapitals_cons, hCapital, loweredOfRun]
        -- Behind the lowered characters nothing has changed.
        have hSplit :
            lowerFirst 0 (c :: rest) =
              (c :: rest).take (loweredCharacters (c :: rest)) ++
                (c :: rest).drop
                  (loweredCharacters (c :: rest)) :=
          (List.take_append_drop _ (c :: rest)).symm
        rw [hNone, hSplit, lowerFirst, List.append_left_inj,
          flatMap_lowerForm_eq_self_iff]
        simp [hCapital]

/- A run of capitals behind another letter is lowered too. -/
theorem uncapitalize_ne_decapitalized :
    uncapitalize "eBSVolume" = "ebsVolume" ∧
      decapitalized "eBSVolume" = "eBSVolume" := by
  decide +kernel

------------------------------------------------------------
-- Lowered Texts
------------------------------------------------------------

/-
  The characters that would be put in lower case are so
  already.
-/
def IsLowered : List Char → Prop
  | [] => True
  | c :: rest =>
      lowerForm c = [c] ∧
        (runContinues rest = true → IsLowered rest)

/- Such a text stays as it is. -/
theorem lowerLeadingRun_of_isLowered
    {cs : List Char}
    (hCs : IsLowered cs) :
    lowerLeadingRun cs = cs := by
  induction cs with
  | nil => rfl
  | cons c rest ih =>
      rw [lowerLeadingRun, hCs.1, List.singleton_append]
      split
      · rename_i hRun
        rw [ih (hCs.2 hRun)]
      · rfl

/- Characters in lower case may be put in front of one. -/
theorem isLowered_append
    {front rest : List Char}
    (hFront : ∀ c ∈ front, lowerForm c = [c])
    (hSome : front ≠ [])
    (hRest : runContinues rest = true → IsLowered rest) :
    IsLowered (front ++ rest) := by
  induction front with
  | nil => exact absurd rfl hSome
  | cons c front ih =>
      rw [List.forall_mem_cons] at hFront
      refine ⟨hFront.1, ?_⟩
      cases front with
      | nil => exact hRest
      | cons d front =>
          intro _
          exact ih hFront.2 (List.cons_ne_nil d front)

/- Lower-casing the leading run leads to one. -/
theorem isLowered_lowerLeadingRun
    (cs : List Char) :
    IsLowered (lowerLeadingRun cs) := by
  induction cs with
  | nil => trivial
  | cons c rest ih =>
      rw [lowerLeadingRun]
      apply isLowered_append
      · intro d hD
        exact lowerForm_of_mem hD
      · exact lowerForm_ne_nil c
      · split
        · exact fun _ => ih
        · rename_i hStop
          exact fun hRun => absurd hRun hStop

theorem uncapitalize_uncapitalize
    (name : String) :
    uncapitalize (uncapitalize name) = uncapitalize name := by
  unfold uncapitalize
  rw [String.toList_ofList, lowerLeadingRun_of_isLowered
    (isLowered_lowerLeadingRun name.toList)]

------------------------------------------------------------
-- Keywords
------------------------------------------------------------

/- Whether a character is a small letter. -/
def isSmallLetter
    (c : Char) :
    Bool :=
  decide ('a' ≤ c) && decide (c ≤ 'z')

theorem isSmallLetter_iff
    {c : Char} :
    isSmallLetter c = true ↔
      0x61 ≤ c.toNat ∧ c.toNat ≤ 0x7A := by
  simp only [isSmallLetter, Bool.and_eq_true,
    decide_eq_true_eq, Char.le_def, UInt32.le_iff_toNat_le]
  rfl

/- Such a letter is in lower case. -/
theorem isLowercase_of_isSmallLetter
    {c : Char}
    (hC : isSmallLetter c = true) :
    isLowercase c = true := by
  rw [isSmallLetter_iff] at hC
  refine List.any_eq_true.mpr ⟨⟨0x61, 0x7A, 1⟩, by decide, ?_⟩
  rw [CodeRange.contains_iff]
  exact ⟨hC.1, hC.2, Nat.mod_one _⟩

theorem lowerForm_of_isSmallLetter
    {c : Char}
    (hC : isSmallLetter c = true) :
    lowerForm c = [c] := by
  rw [isSmallLetter_iff] at hC
  exact lowerForm_of_lt (by omega) (by omega)

/- Keywords are made of two or more small letters. -/
theorem smallLetters_of_isKeyword
    {word : String}
    (hWord : isKeyword word = true) :
    2 ≤ word.toList.length ∧
      word.toList.all isSmallLetter = true := by
  have hAll :
      ∀ word ∈ keywords,
        2 ≤ word.toList.length ∧
          word.toList.all isSmallLetter = true := by
    decide
  exact hAll word (List.contains_iff_mem.mp hWord)

/- A name that begins with a keyword has no capital in front. -/
theorem uncapitalize_keyword_append
    {word : String}
    (hWord : isKeyword word = true)
    (rest : String) :
    uncapitalize (word ++ rest) = word ++ rest := by
  rcases smallLetters_of_isKeyword hWord with
    ⟨hLength, hSmall⟩
  have hLowered : IsLowered (word ++ rest).toList := by
    rw [String.toList_append]
    cases hChars : word.toList with
    | nil => simp [hChars] at hLength
    | cons c more =>
        cases more with
        | nil => simp [hChars] at hLength
        | cons d more =>
            simp only [hChars, List.all_cons,
              Bool.and_eq_true] at hSmall
            rcases hSmall with ⟨hC, hD, -⟩
            have hStop : isUppercase d = false :=
              isUppercase_eq_false_of_isLowercase
                (isLowercase_of_isSmallLetter hD)
            rw [List.cons_append, List.cons_append]
            refine ⟨lowerForm_of_isSmallLetter hC, ?_⟩
            cases more ++ rest.toList with
            | nil => simp [runContinues, hStop]
            | cons e more => simp [runContinues, hStop]
  rw [uncapitalize, lowerLeadingRun_of_isLowered hLowered,
    String.ofList_toList]

/- A keyword with an ending that holds a capital is none. -/
theorem isKeyword_append_eq_false
    {a b : String}
    (hCapital : hasCapital b = true) :
    isKeyword (a ++ b) = false := by
  rw [Bool.eq_false_iff]
  intro hWord
  have hNone := hasCapital_of_isKeyword hWord
  unfold hasCapital at hCapital hNone
  rw [String.toList_append, List.any_append, hCapital,
    Bool.or_true] at hNone
  cases hNone

------------------------------------------------------------
-- Variable Names
------------------------------------------------------------

/- A variable gets an ending where its name is a keyword. -/
theorem variableName_cases
    (name : String) :
    isKeyword (uncapitalize name) = true ∧
        variableName name = uncapitalize name ++ "Value" ∨
      isKeyword (uncapitalize name) = false ∧
        variableName name = uncapitalize name := by
  cases hWord : isKeyword (uncapitalize name) with
  | true => exact .inl ⟨rfl, by simp [variableName, hWord]⟩
  | false => exact .inr ⟨rfl, by simp [variableName, hWord]⟩

/- So it is never called by one. -/
theorem isKeyword_variableName
    (name : String) :
    isKeyword (variableName name) = false := by
  rcases variableName_cases name with
    ⟨-, hName⟩ | ⟨hWord, hName⟩
  · rw [hName]
    exact isKeyword_append_eq_false (by decide)
  · rw [hName]
    exact hWord

/- Lower-casing does not go beyond where a run stops. -/
theorem exists_lowerLeadingRun_append
    {cs ending : List Char}
    (hSome : cs ≠ [])
    (hStop : runContinues ending = false) :
    ∃ front,
      lowerLeadingRun (cs ++ ending) = front ++ ending := by
  induction cs with
  | nil => exact absurd rfl hSome
  | cons c cs ih =>
      rw [List.cons_append, lowerLeadingRun]
      split
      · rename_i hRun
        have hMore : cs ≠ [] := by
          rintro rfl
          rw [List.nil_append, hStop] at hRun
          cases hRun
        rcases ih hMore with ⟨front, hFront⟩
        exact ⟨lowerForm c ++ front, by simp [hFront]⟩
      · exact ⟨lowerForm c ++ cs, by simp⟩

/- So a word at the end of a name keeps its capital. -/
theorem variableName_append
    {name ending : String}
    (hName : name ≠ "")
    (hStop : runContinues ending.toList = false)
    (hCapital : hasCapital ending = true) :
    variableName (name ++ ending) =
      uncapitalize (name ++ ending) := by
  have hSome : name.toList ≠ [] := by
    simpa using hName
  rcases exists_lowerLeadingRun_append hSome hStop with
    ⟨front, hFront⟩
  have hEnding :
      uncapitalize (name ++ ending) =
        String.ofList front ++ ending := by
    simp [uncapitalize, hFront]
  rcases variableName_cases (name ++ ending) with
    ⟨hWord, -⟩ | ⟨-, hVariable⟩
  · rw [hEnding, isKeyword_append_eq_false hCapital] at hWord
    cases hWord
  · exact hVariable

/- The name of a variable is in lower case already, -/
theorem uncapitalize_variableName
    (name : String) :
    uncapitalize (variableName name) = variableName name := by
  rcases variableName_cases name with
    ⟨hWord, hName⟩ | ⟨-, hName⟩
  · rw [hName, uncapitalize_keyword_append hWord]
  · rw [hName, uncapitalize_uncapitalize]

/- So that it names the variable of that name. -/
theorem variableName_variableName
    (name : String) :
    variableName (variableName name) = variableName name := by
  rw [variableName, uncapitalize_variableName,
    isKeyword_variableName]
  rfl

------------------------------------------------------------
-- Identifiers
------------------------------------------------------------

/- The lower-case form of what may stand in an identifier. -/
theorem exists_lowerForm_of_isIdentifierPart
    {c : Char}
    (hPart : isIdentifierPart c = true) :
    ∃ d, lowerForm c = [d] ∧ isIdentifierPart d = true ∧
      (isIdentifierStart c = true →
        isIdentifierStart d = true) := by
  by_cases hCapital : 0x41 ≤ c.toNat ∧ c.toNat ≤ 0x5A
  · have hLetters :
        ∀ n < 26,
          lowerForm (Char.ofNat (0x41 + n)) =
              [Char.ofNat (0x61 + n)] ∧
            isIdentifierStart (Char.ofNat (0x61 + n)) =
              true := by
      decide
    have hLetter := hLetters (c.toNat - 0x41) (by omega)
    rw [Nat.add_sub_cancel' hCapital.1, Char.ofNat_toNat]
      at hLetter
    exact ⟨_, hLetter.1,
      by rw [isIdentifierPart, hLetter.2]; rfl,
      fun _ => hLetter.2⟩
  · have hRange := range_of_isIdentifierPart hPart
    exact ⟨c, lowerForm_of_lt (by omega) (by omega), hPart, id⟩

/- Lower-casing keeps the characters of an identifier. -/
theorem all_isIdentifierPart_lowerLeadingRun
    {cs : List Char}
    (hCs : cs.all isIdentifierPart = true) :
    (lowerLeadingRun cs).all isIdentifierPart = true := by
  induction cs with
  | nil => rfl
  | cons c rest ih =>
      rw [List.all_cons, Bool.and_eq_true] at hCs
      rcases exists_lowerForm_of_isIdentifierPart hCs.1 with
        ⟨d, hForm, hPart, -⟩
      rw [lowerLeadingRun, hForm, List.singleton_append,
        List.all_cons, hPart, Bool.true_and]
      split
      · exact ih hCs.2
      · exact hCs.2

/- So it keeps the form of one. -/
theorem hasIdentifierForm_uncapitalize
    {name : String}
    (hName : hasIdentifierForm name.toList = true) :
    hasIdentifierForm (uncapitalize name).toList = true := by
  rw [uncapitalize, String.toList_ofList]
  cases hChars : name.toList with
  | nil => simp [hChars, hasIdentifierForm] at hName
  | cons c rest =>
      rw [hChars, hasIdentifierForm, Bool.and_eq_true] at hName
      have hPart : isIdentifierPart c = true := by
        rw [isIdentifierPart, hName.1]
        rfl
      rcases exists_lowerForm_of_isIdentifierPart hPart with
        ⟨d, hForm, -, hStart⟩
      rw [lowerLeadingRun, hForm]
      apply hasIdentifierForm_append
      · simp [hasIdentifierForm, hStart hName.1]
      · split
        · exact all_isIdentifierPart_lowerLeadingRun hName.2
        · exact hName.2

/- What has the form of an identifier names a variable. -/
theorem isIdentifier_variableName
    {name : String}
    (hName : hasIdentifierForm name.toList = true) :
    isIdentifier (variableName name) = true := by
  have hForm :
      hasIdentifierForm (variableName name).toList = true := by
    have hCandidate := hasIdentifierForm_uncapitalize hName
    rcases variableName_cases name with
      ⟨-, hVariable⟩ | ⟨-, hVariable⟩
    · rw [hVariable, String.toList_append]
      exact hasIdentifierForm_append hCandidate (by decide)
    · rw [hVariable]
      exact hCandidate
  rw [isIdentifier, hForm, isKeyword_variableName]
  rfl

/-
  Deriving a name from a derived one leads back to it.  The
  name of a variable is no keyword, and it is an identifier
  wherever the name it comes from has the form of one.
-/
theorem derivedNames_stable :
    (∀ name, uncapitalize (uncapitalize name) =
      uncapitalize name) ∧
    (∀ name, variableName (variableName name) =
      variableName name) ∧
    (∀ name, isKeyword (variableName name) = false) ∧
    ∀ name : String, hasIdentifierForm name.toList = true →
      isIdentifier (variableName name) = true :=
  ⟨uncapitalize_uncapitalize, variableName_variableName,
    isKeyword_variableName,
    fun _ hName => isIdentifier_variableName hName⟩

/- It is so for a keyword in capitals, which has to give way. -/
theorem derivedNames_stable_default :
    hasIdentifierForm "DEFAULT".toList = true ∧
      variableName "DEFAULT" = "defaultValue" ∧
      isIdentifier (variableName "DEFAULT") = true := by
  have hForm : hasIdentifierForm "DEFAULT".toList = true := by
    decide
  exact ⟨hForm, by decide +kernel,
    derivedNames_stable.2.2.2 "DEFAULT" hForm⟩

end ClientGen.Java
