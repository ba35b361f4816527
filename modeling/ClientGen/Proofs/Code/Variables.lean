import ClientGen.Java.Declaration
import ClientGen.Proofs.Code.Tokens
import ClientGen.Proofs.Text.Pieces

/-
  The variables that code mentions by their bare names, and
  those that it declares.

  Main declarations include:
    * `reads_word`
    * `Code.bareNames`
    * `Code.locals`
    * `Code.Uses`
    * `Code.Uses.append`
    * `Method.Hygienic`
    * `Method.hygienic_iff`

  A name stands for a variable unless it is a member of
  something, or is called.  A parameter is safe if no other
  mention of a variable could be taken for it.
-/

namespace ClientGen.Java

open Code

------------------------------------------------------------
-- Names Inside Texts
------------------------------------------------------------

/- A name goes on as long as its characters do. -/
theorem Mode.scan_word
    {name : List Char}
    (hName : ∀ c ∈ name, isIdentifierPart c = true)
    (read : List Char)
    (rest : List Atom) :
    scan (.word read) (name.map .char ++ rest) =
      scan (.word (name.reverse ++ read)) rest := by
  induction name generalizing read with
  | nil => rfl
  | cons c name ih =>
      have hC := hName c List.mem_cons_self
      have hRest :
          ∀ d ∈ name, isIdentifierPart d = true :=
        fun d hD => hName d (List.mem_cons_of_mem c hD)
      rw [List.map_cons, List.cons_append, scan]
      simp only [step, hC, if_true, List.nil_append]
      rw [ih hRest, List.reverse_cons, List.append_assoc]
      rfl

/- A text may be read in two pieces. -/
theorem Code.Reads.text_append
    {s t : String}
    {ts us : List Token}
    (hS : Reads [.text s] ts)
    (hT : Reads [.text t] us) :
    Reads [.text (s ++ t)] (ts ++ us) := by
  have hBoth := hS.append hT
  have hAtoms :
      atoms [Part.text (s ++ t)] =
        atoms ([.text s] ++ [.text t]) := by
    simp
  unfold Reads at hBoth ⊢
  rw [hAtoms, hBoth]

/- Where a word is being read another character ends it. -/
theorem Mode.scan_word_end
    {read : List Char}
    {c : Char}
    (hC : isIdentifierPart c = false)
    (rest : List Atom) :
    scan (.word read) (.char c :: rest) =
      (.word (textOf read) :: (scan .between (.char c :: rest)).1,
        (scan .between (.char c :: rest)).2) := by
  simp [scan, step, hC, ended]

/- A word in front of something else is read as such. -/
theorem reads_word
    {word after : String}
    {ts : List Token}
    (hSome : word ≠ "")
    (hParts : ∀ c ∈ word.toList, isIdentifierPart c = true)
    (hNext :
      after.toList.head?.any
        (fun c => !isIdentifierPart c) = true)
    (hAfter : Reads [.text after] ts) :
    Reads [.text (word ++ after)] (.word word :: ts) := by
  have hAtoms :
      ∀ s : String,
        atoms [Part.text s] = s.toList.map .char := by
    simp
  unfold Reads at hAfter ⊢
  rw [hAtoms] at hAfter ⊢
  rw [String.toList_append, List.map_append]
  cases hFirst : word.toList with
  | nil => exact absurd (String.toList_eq_nil_iff.mp hFirst) hSome
  | cons c cs =>
      rw [hFirst] at hParts
      have hC := hParts c List.mem_cons_self
      have hQuote : c ≠ '"' := by
        rintro rfl
        exact absurd hC (by decide)
      have hStart :
          Mode.start (.char c) = ([], .word [c]) := by
        simp [Mode.start, hQuote, hC]
      have hText :
          Mode.textOf (cs.reverse ++ [c]) = word := by
        apply String.toList_injective
        simp [Mode.textOf, hFirst]
      cases hRest : after.toList with
      | nil => simp [hRest] at hNext
      | cons d ds =>
          have hD : isIdentifierPart d = false := by
            simpa [hRest] using hNext
          rw [hRest] at hAfter
          rw [List.map_cons, List.cons_append, Mode.scan,
            Mode.step, hStart]
          · simp only [Mode.ended, List.nil_append]
            rw [Mode.scan_word fun e hE =>
                hParts e (List.mem_cons_of_mem c hE),
              List.map_cons, Mode.scan_word_end hD, hText,
              ← List.map_cons, hAfter]
          all_goals simp

/- So is a name. -/
theorem reads_name
    {name after : String}
    {ts : List Token}
    (hName : isIdentifier name = true)
    (hNext :
      after.toList.head?.any
        (fun c => !isIdentifierPart c) = true)
    (hAfter : Reads [.text after] ts) :
    Reads [.text (name ++ after)] (.word name :: ts) := by
  rcases all_isIdentifierPart hName with ⟨hSome, hParts⟩
  exact reads_word hSome hParts hNext hAfter

------------------------------------------------------------
-- Variables
------------------------------------------------------------

/- Whether a word stands for a variable, seen what is around. -/
def isVariable
    (before : Option Token)
    (word : String)
    (rest : List Token) :
    Bool :=
  before != some (.symbol '.') &&
    rest.head? != some (.symbol '(') && isIdentifier word

/- The variables in tokens behind another one. -/
def variablesAfter
    (before : Option Token) :
    List Token → List String
  | [] => []
  | .word w :: rest =>
      if isVariable before w rest then
        w :: variablesAfter (some (.word w)) rest
      else variablesAfter (some (.word w)) rest
  | t :: rest => variablesAfter (some t) rest

/-
  The variables that tokens mention by their bare names: the
  words that are no members of anything and are not called.
-/
def variablesOf
    (ts : List Token) :
    List String :=
  variablesAfter none ts

/- The variables that tokens declare, each with a value. -/
def localsOf :
    List Token → List String
  | .type _ :: .word w :: .symbol '=' :: rest =>
      w :: localsOf rest
  | _ :: rest => localsOf rest
  | [] => []

/- Nothing but a dot makes a member of what follows it. -/
theorem variablesAfter_eq_variablesOf
    {before : Option Token}
    (hDot : before ≠ some (.symbol '.'))
    (ts : List Token) :
    variablesAfter before ts = variablesOf ts := by
  unfold variablesOf
  cases ts with
  | nil => rfl
  | cons t rest =>
      cases t with
      | word w => simp [variablesAfter, isVariable, hDot]
      | _ => rfl

/- Whether the token is a mark that is no dot. -/
def Token.isMark : Token → Bool
  | .symbol c => c != '.'
  | _ => false

/-
  The tokens end, if there are any, in a mark that is no dot.
  What follows them can be read on its own.
-/
def EndInMark
    (ts : List Token) :
    Prop :=
  ∀ t ∈ ts.getLast?, t.isMark = true

instance
    (ts : List Token) :
    Decidable (EndInMark ts) :=
  inferInstanceAs (Decidable (∀ t ∈ ts.getLast?, _))

/- A token that ends others is a mark that is no dot. -/
theorem EndInMark.eq_symbol
    {t : Token}
    (hEnd : EndInMark [t]) :
    ∃ c, t = .symbol c ∧ c ≠ '.' := by
  have hMark := hEnd t rfl
  cases t with
  | symbol c => exact ⟨c, rfl, by simpa [Token.isMark] using hMark⟩
  | _ => cases hMark

/- All but the first of tokens end as they do. -/
theorem EndInMark.tail
    {t next : Token}
    {more : List Token}
    (hEnd : EndInMark (t :: next :: more)) :
    EndInMark (next :: more) := by
  intro last hLast
  exact hEnd last (by rwa [List.getLast?_cons_cons])

/- Behind a mark that is no dot reading starts anew. -/
theorem variablesOf_append
    {ts : List Token}
    (hEnd : EndInMark ts)
    (us : List Token) :
    variablesOf (ts ++ us) =
      variablesOf ts ++ variablesOf us := by
  suffices hAfter :
      ts ≠ [] → ∀ before,
        variablesAfter before (ts ++ us) =
          variablesAfter before ts ++ variablesOf us by
    cases ts with
    | nil => rfl
    | cons t rest => exact hAfter (by simp) none
  intro hSome
  induction ts with
  | nil => exact absurd rfl hSome
  | cons t rest ih =>
      intro before
      cases rest with
      | nil =>
          rcases hEnd.eq_symbol with ⟨c, rfl, hDot⟩
          exact variablesAfter_eq_variablesOf (by simpa) us
      | cons next more =>
          have hRest := ih hEnd.tail (by simp)
          rw [List.cons_append]
          cases t with
          | word w =>
              rw [variablesAfter, variablesAfter, hRest]
              -- What follows the word is the same in both.
              by_cases hVariable :
                  isVariable before w (next :: more) = true
              · have hBoth :
                    isVariable before w
                      (next :: more ++ us) = true :=
                  hVariable
                rw [if_pos hBoth, if_pos hVariable]
                rfl
              · have hBoth :
                    ¬isVariable before w
                      (next :: more ++ us) = true :=
                  hVariable
                rw [if_neg hBoth, if_neg hVariable]
          | _ => exact hRest _

/- Nothing that is declared reaches across a mark. -/
theorem localsOf_append
    {ts : List Token}
    (hEnd : EndInMark ts)
    (us : List Token) :
    localsOf (ts ++ us) = localsOf ts ++ localsOf us := by
  fun_induction localsOf ts with
  | case1 t w rest ih =>
      cases rest with
      | nil => rfl
      | cons next more =>
          have hRest := ih hEnd.tail.tail.tail
          rw [List.cons_append, List.cons_append,
            List.cons_append, localsOf, hRest]
          rfl
  | case2 t rest hOther ih =>
      cases rest with
      | nil =>
          rcases hEnd.eq_symbol with ⟨c, rfl, _⟩
          rfl
      | cons next more =>
          have hRest := ih hEnd.tail
          rw [List.cons_append, localsOf, hRest]
          -- A declaration would lie within the tokens.
          intro type w others hType hTokens
          rw [List.cons_append] at hTokens
          injection hTokens with hNext hMore
          cases more with
          | nil =>
              rcases hEnd.tail.eq_symbol with ⟨c, rfl, _⟩
              cases hNext
          | cons third more =>
              injection hMore with hThird hOthers
              exact hOther type w more hType
                (by rw [hNext, hThird])
  | case3 => rfl

------------------------------------------------------------
-- Pieces of Code
------------------------------------------------------------

namespace Code

/- The variables that the code mentions by bare names. -/
def bareNames
    (code : Code) :
    List String :=
  variablesOf code.tokens

/- The variables that it declares. -/
def locals
    (code : Code) :
    List String :=
  localsOf code.tokens

/-
  The parts mention the variables and declare the local
  ones, whatever is read after them.
-/
def Uses
    (parts : List Part)
    (names declared : List String) :
    Prop :=
  ∃ ts, Reads parts ts ∧ EndInMark ts ∧
    variablesOf ts = names ∧ localsOf ts = declared

/- Pieces one after the other use what each of them uses. -/
theorem Uses.append
    {a b : List Part}
    {names others declared further : List String}
    (hA : Uses a names declared)
    (hB : Uses b others further) :
    Uses (a ++ b) (names ++ others) (declared ++ further) := by
  rcases hA with ⟨ts, hReadsA, hEndA, rfl, rfl⟩
  rcases hB with ⟨us, hReadsB, hEndB, rfl, rfl⟩
  refine ⟨ts ++ us, hReadsA.append hReadsB, ?_,
    variablesOf_append hEndA us, localsOf_append hEndA us⟩
  intro t hT
  rw [Option.mem_def, List.getLast?_append,
    Option.or_eq_some_iff] at hT
  rcases hT with hLast | ⟨_, hLast⟩
  · exact hEndB t hLast
  · exact hEndA t hLast

/- So does a text that goes on as another one. -/
theorem Uses.append_text
    (front : List Part)
    {s t : String}
    {names others declared further : List String}
    (hFront : Uses (front ++ [.text s]) names declared)
    (hT : Uses [.text t] others further) :
    Uses (front ++ [.text (s ++ t)]) (names ++ others)
      (declared ++ further) := by
  rcases hFront.append hT with ⟨ts, hReads, hUses⟩
  refine ⟨ts, ?_, hUses⟩
  unfold Reads at hReads ⊢
  rw [← hReads]
  congr 1
  simp

/- A name in front of a closing bracket is mentioned. -/
theorem Uses.argument
    {name after : String}
    {others declared : List String}
    (hName : isIdentifier name = true)
    (hAfter : Uses [.text after] others declared) :
    Uses [.text (name ++ (")" ++ after))] (name :: others)
      declared := by
  rcases hAfter with ⟨ts, hReads, hEnd, rfl, rfl⟩
  have hBracket : Reads [.text ")"] [.symbol ')'] :=
    rfl
  have hNext :
      (")" ++ after).toList.head?.any
        (fun c => !isIdentifierPart c) = true := by
    rw [String.toList_append]
    rfl
  have hVariable :
      isVariable none name (.symbol ')' :: ts) = true := by
    simp [isVariable, hName]
  refine ⟨.word name :: .symbol ')' :: ts,
    reads_name hName hNext (hBracket.text_append hReads),
    ?_, ?_, rfl⟩
  · intro t hT
    cases ts with
    | nil =>
        have hBracket : t = .symbol ')' := by
          simpa using hT.symm
        rw [hBracket]
        rfl
    | cons next more => exact hEnd t (by simpa using hT)
  · have hRest :
        variablesAfter (some (.symbol ')')) ts =
          variablesOf ts :=
      variablesAfter_eq_variablesOf (by simp) ts
    rw [variablesOf, variablesAfter, if_pos hVariable, ← hRest]
    rfl

/- The part with nothing said of its type. -/
def Part.erased : Part → Part
  | .type _ => .type .void
  | p => p

/- Parts that are read to their end are known by tokens. -/
theorem uses_iff
    {parts : List Part}
    {names declared : List String} :
    Uses parts names declared ↔
      (Mode.scan .between (atoms parts)).2 = .between ∧
        EndInMark (Mode.scan .between (atoms parts)).1 ∧
        variablesOf (Mode.scan .between (atoms parts)).1 =
          names ∧
        localsOf (Mode.scan .between (atoms parts)).1 =
          declared := by
  constructor
  · rintro ⟨ts, hReads, hTokens⟩
    unfold Reads at hReads
    rw [hReads]
    exact ⟨rfl, hTokens⟩
  · rintro ⟨hEnd, hTokens⟩
    exact ⟨_, Prod.ext rfl hEnd, hTokens⟩

instance
    (parts : List Part)
    (names declared : List String) :
    Decidable (Uses parts names declared) :=
  decidable_of_iff _ uses_iff.symm

end Code

/- The token with nothing said of its type. -/
def Token.erased : Token → Token
  | .type _ => .type .void
  | t => t

/- The atom likewise. -/
def Code.Atom.erased : Atom → Atom
  | .type _ => .type .void
  | a => a

/- No other token is taken for a mark. -/
theorem Token.erased_eq_symbol_iff
    {t : Token}
    {c : Char} :
    t.erased = .symbol c ↔ t = .symbol c := by
  cases t <;> simp [erased]

/- A step does not look at types. -/
theorem Mode.step_erased
    (mode : Mode)
    (a : Atom) :
    mode.step a.erased =
      ((mode.step a).1.map Token.erased, (mode.step a).2) := by
  cases a with
  | char c =>
      have hStart :
          (start (.char c)).1.map Token.erased =
            (start (.char c)).1 := by
        simp only [start]
        split_ifs <;> rfl
      have hStep :
          (mode.step (.char c)).1.map Token.erased =
            (mode.step (.char c)).1 := by
        cases mode with
        | between => simp [step, ended, hStart]
        | word read =>
            simp only [step]
            split_ifs <;> simp [Token.erased, hStart]
        | literal read =>
            simp only [step]
            split_ifs <;> rfl
        | escape read => rfl
      exact Prod.ext hStep.symm rfl
  | type t => cases mode <;> rfl
  | indent => cases mode <;> rfl
  | unindent => cases mode <;> rfl

/- Types are read in the same way whatever they are. -/
theorem Mode.scan_erased
    (mode : Mode)
    (parts : List Part) :
    scan mode (atoms (parts.map Part.erased)) =
      ((scan mode (atoms parts)).1.map Token.erased,
        (scan mode (atoms parts)).2) := by
  have hAtoms :
      atoms (parts.map Part.erased) =
        (atoms parts).map Atom.erased := by
    induction parts with
    | nil => rfl
    | cons p parts ih =>
        rw [List.map_cons, atoms_cons, atoms_cons, ih,
          List.map_append]
        cases p <;> simp [Part.erased, Atom.erased]
  rw [hAtoms]
  generalize atoms parts = read
  induction read generalizing mode with
  | nil => rfl
  | cons a read ih =>
      rw [List.map_cons, scan, scan, step_erased, ih,
        List.map_append]

/- Nor does it matter to variables what they are. -/
theorem variablesOf_erased
    (ts : List Token) :
    variablesOf (ts.map Token.erased) = variablesOf ts := by
  suffices hAfter :
      ∀ before : Option Token,
        variablesAfter (before.map Token.erased)
            (ts.map Token.erased) =
          variablesAfter before ts from
    hAfter none
  induction ts with
  | nil => exact fun _ => rfl
  | cons t rest ih =>
      intro before
      have hRest := ih (some t)
      cases t with
      | word w =>
          have hVariable :
              isVariable (before.map Token.erased) w
                  (rest.map Token.erased) =
                isVariable before w rest := by
            have hBefore :
                before.map Token.erased = some (.symbol '.') ↔
                  before = some (.symbol '.') := by
              cases before <;>
                simp [Token.erased_eq_symbol_iff]
            have hNext :
                (rest.map Token.erased).head? =
                    some (.symbol '(') ↔
                  rest.head? = some (.symbol '(') := by
              cases rest <;>
                simp [Token.erased_eq_symbol_iff]
            simp only [isVariable, bne, beq_eq_decide, hBefore,
              hNext]
          have hWord :
              (Token.word w).erased = .word w :=
            rfl
          rw [List.map_cons, hWord, variablesAfter,
            variablesAfter, hVariable]
          exact congrArg (fun names =>
            if isVariable before w rest then w :: names
            else names) hRest
      | _ => exact hRest

theorem localsOf_erased
    (ts : List Token) :
    localsOf (ts.map Token.erased) = localsOf ts := by
  fun_induction localsOf ts with
  | case1 t w rest ih => exact congrArg (w :: ·) ih
  | case2 t rest hOther ih =>
      rw [List.map_cons, localsOf, ih]
      -- What looks like a declaration was one before.
      intro type w others hType hTokens
      cases t with
      | type u =>
          rcases rest with _ | ⟨next, _ | ⟨third, more⟩⟩
          · cases hTokens
          · cases next <;> cases hTokens
          · injection hTokens with hNext hMore
            injection hMore with hThird hOthers
            have hEquals := Token.erased_eq_symbol_iff.mp hThird
            cases next with
            | word v => exact hOther u v more rfl (by rw [hEquals])
            | _ => cases hNext
      | _ => cases hType
  | case3 => rfl

theorem endInMark_erased_iff
    {ts : List Token} :
    EndInMark (ts.map Token.erased) ↔ EndInMark ts := by
  have hMark :
      ∀ t : Token, t.erased.isMark = t.isMark := by
    intro t
    cases t <;> rfl
  unfold EndInMark
  rw [List.getLast?_map]
  cases ts.getLast? <;> simp [hMark]

namespace Code

/- So parts use what they would use with other types. -/
theorem Uses.of_erased
    {parts : List Part}
    {names declared : List String}
    (hErased : Uses (parts.map Part.erased) names declared) :
    Uses parts names declared := by
  rw [uses_iff, Mode.scan_erased] at hErased
  simpa only [variablesOf_erased, localsOf_erased,
    endInMark_erased_iff, ← uses_iff] using hErased

/- What the parts use is used by the code that they make. -/
theorem Uses.of_code
    {parts : List Part}
    {names declared : List String}
    (hUses : Uses parts names declared) :
    (ofParts parts).bareNames = names ∧
      (ofParts parts).locals = declared := by
  rcases hUses with ⟨ts, hReads, -, rfl, rfl⟩
  rw [bareNames, locals, hReads.tokens_eq]
  exact ⟨rfl, rfl⟩

end Code

------------------------------------------------------------
-- Hygiene
------------------------------------------------------------

/-
  No parameter has the name of a local variable, each is
  mentioned once and so where it is meant, and all other
  variables are local ones or fields.
-/
structure Method.Hygienic
    (fields : List String)
    (m : Method) :
    Prop where
  apart : ∀ p ∈ m.parameters, p.name ∉ m.body.locals
  once :
    ∀ p ∈ m.parameters, m.body.bareNames.count p.name = 1
  known :
    ∀ name ∈ m.body.bareNames,
      name ∈ m.parameters.map (·.name) ∨
        name ∈ m.body.locals ∨ name ∈ fields

/-
  Where the one parameter is mentioned among local variables
  and fields, it only has to differ from all of them.
-/
theorem Method.hygienic_iff
    {fields : List String}
    {m : Method}
    {p : Parameter}
    {before after : List String}
    (hParameter : m.parameters = [p])
    (hVariables :
      m.body.bareNames = before ++ p.name :: after)
    (hLocals : ∀ name ∈ m.body.locals, name ∈ before ++ after)
    (hKnown :
      ∀ name ∈ before ++ after,
        name ∈ m.body.locals ∨ name ∈ fields) :
    m.Hygienic fields ↔ p.name ∉ before ++ after := by
  constructor
  · intro hHygienic hMem
    have hOnce := hHygienic.once p (by simp [hParameter])
    rw [hVariables, List.count_append, List.count_cons_self]
      at hOnce
    have hPositive := List.count_pos_iff.mpr hMem
    rw [List.count_append] at hPositive
    omega
  · intro hApart
    have hNone := List.count_eq_zero.mpr hApart
    rw [List.count_append] at hNone
    refine ⟨?_, ?_, ?_⟩
    · intro q hQ
      rw [hParameter, List.mem_singleton] at hQ
      subst hQ
      exact fun hLocal => hApart (hLocals _ hLocal)
    · intro q hQ
      rw [hParameter, List.mem_singleton] at hQ
      subst hQ
      rw [hVariables, List.count_append,
        List.count_cons_self]
      omega
    · intro name hName
      rw [hVariables, List.mem_append, List.mem_cons] at hName
      rcases hName with hBefore | rfl | hAfter
      · exact .inr (hKnown name
          (List.mem_append_left _ hBefore))
      · exact .inl (by simp [hParameter])
      · exact .inr (hKnown name
          (List.mem_append_right _ hAfter))

end ClientGen.Java
