import KunobiDaemon.Errors
import Mathlib.Data.List.TakeWhile

/-! The command line that `CreateProcessW` takes, and how the C runtime splits it back.

Inside a word of the splitter a run of backslashes is pending until the unit after it is known.
The quoted text of an argument carries the same count, so the two are followed side by side.
-/

set_option autoImplicit false

namespace KunobiDaemon.Local.CommandLine

def QUOTE : UInt16 := 0x22
def BACKSLASH : UInt16 := 0x5c
def SPACE : UInt16 := 0x20
def TAB : UInt16 := 0x09

def invalidInput (message : String) : IoError := ⟨.invalidInput, .message message⟩

def backslashes (count : Nat) : List UInt16 := List.replicate count BACKSLASH

def needsQuotes (arg : List UInt16) : Bool :=
  arg.isEmpty || arg.any fun unit => unit = 0x20 || unit = 0x09 || unit = 0x0a || unit = 0x0b || unit = QUOTE

/-- One unit of a quoted argument, with the line so far and the backslashes that are pending. -/
def appendUnit : List UInt16 × Nat → UInt16 → List UInt16 × Nat
  | (line, pending), unit =>
      if unit = BACKSLASH then (line, pending + 1)
      -- Backslashes before a quote are escapes.
      else if unit = QUOTE then (line ++ backslashes (pending * 2 + 1) ++ [unit], 0)
      else (line ++ backslashes pending ++ [unit], 0)

def appendArgument (line arg : List UInt16) : List UInt16 :=
  if !needsQuotes arg then line ++ arg
  else
    let (line, pending) := arg.foldl appendUnit (line ++ [QUOTE], 0)
    -- Trailing backslashes precede the closing quote.
    line ++ backslashes (pending * 2) ++ [QUOTE]

/-- The command line for a program and its arguments. -/
def commandLine (program : List UInt16) (args : List (List UInt16)) : Except IoError (List UInt16) :=
  if program.isEmpty || program.contains QUOTE then
    .error (invalidInput "the program path is empty or contains a quote")
  else if program.contains 0 || args.any (·.contains 0) then
    .error (invalidInput "a command line cannot contain a NUL")
  else .ok (args.foldl (fun line arg => appendArgument (line ++ [SPACE]) arg) ([QUOTE] ++ program ++ [QUOTE]))

/-! ## The splitter -/

/-- What a quote does that follows another one inside quotes. -/
inductive DoubledQuote where
  | staysQuoted
  | endsQuote
  deriving DecidableEq, Repr

def blank (unit : UInt16) : Bool := unit = SPACE || unit = TAB

/-- The program name has no escapes: quotes toggle, and whitespace outside them ends it. -/
def splitProgram (quoted : Bool) (program : List UInt16) : List UInt16 → List UInt16 × List UInt16
  | [] => (program, [])
  | unit :: rest =>
      if !quoted && blank unit then (program, unit :: rest)
      else if unit = QUOTE then splitProgram (!quoted) program rest
      else splitProgram quoted (program ++ [unit]) rest

/-- The rest of a word, with the backslashes right before it, and what follows the word. -/
def splitWord (doubled : DoubledQuote) (quoted : Bool) (pending : Nat) (word : List UInt16) :
    List UInt16 → List UInt16 × List UInt16
  | [] => (word ++ backslashes pending, [])
  | unit :: rest =>
      if unit = BACKSLASH then splitWord doubled quoted (pending + 1) word rest
      else if unit = QUOTE then
        if pending % 2 ≠ 0 then splitWord doubled quoted 0 (word ++ backslashes (pending / 2) ++ [QUOTE]) rest
        else
          match rest with
          | [] => splitWord doubled (!quoted) 0 (word ++ backslashes (pending / 2)) []
          | next :: after =>
              if quoted && next = QUOTE then
                splitWord doubled (doubled = .staysQuoted) 0 (word ++ backslashes (pending / 2) ++ [QUOTE]) after
              else splitWord doubled (!quoted) 0 (word ++ backslashes (pending / 2)) (next :: after)
      else if !quoted && blank unit then (word ++ backslashes pending, unit :: rest)
      else splitWord doubled quoted 0 (word ++ backslashes pending ++ [unit]) rest

theorem splitWord_shorter (doubled : DoubledQuote) (quoted : Bool) (pending : Nat) (word units : List UInt16) :
    (splitWord doubled quoted pending word units).2.length ≤ units.length := by
  fun_induction splitWord doubled quoted pending word units <;> grind

/-- A word that begins with anything but whitespace takes it. -/
theorem splitWord_takes (doubled : DoubledQuote) {unit : UInt16} (rest : List UInt16) (solid : blank unit = false) :
    (splitWord doubled false 0 [] (unit :: rest)).2.length < (unit :: rest).length := by
  have shorter := fun quoted pending word units => splitWord_shorter doubled quoted pending word units
  unfold splitWord
  simp only [solid, Bool.and_false]
  split
  · exact Nat.lt_succ_of_le (shorter _ _ _ rest)
  · split
    · cases rest with
      | nil => exact Nat.lt_succ_of_le (shorter true 0 _ [])
      | cons next after => exact Nat.lt_succ_of_le (shorter _ _ _ (next :: after))
    · exact Nat.lt_succ_of_le (shorter _ _ _ rest)

theorem splitWord_lt (doubled : DoubledQuote) {units rest : List UInt16} {unit : UInt16}
    (found : units.dropWhile blank = unit :: rest) :
    (splitWord doubled false 0 [] (unit :: rest)).2.length < units.length := by
  have solid := List.head?_dropWhile_not blank units
  have whole := List.length_dropWhile_le blank units
  rw [found] at solid whole
  exact Nat.lt_of_lt_of_le (splitWord_takes doubled rest solid) whole

/-- The words after the program. -/
def splitWords (doubled : DoubledQuote) (units : List UInt16) : List (List UInt16) :=
  match _ : units.dropWhile blank with
  | [] => []
  | unit :: rest =>
      let word := splitWord doubled false 0 [] (unit :: rest)
      word.1 :: splitWords doubled word.2
termination_by units.length
decreasing_by exact splitWord_lt _ ‹_›

/-- Split a line into the program and its arguments. -/
def split (doubled : DoubledQuote) (line : List UInt16) : List (List UInt16) :=
  let (program, rest) := splitProgram false [] line
  program :: splitWords doubled rest

/-! ## The round trip -/

/-- The rest of a quoted argument, with the backslashes right before it, up to the closing quote. -/
def quotedRest (pending : Nat) : List UInt16 → List UInt16
  | [] => backslashes (pending * 2) ++ [QUOTE]
  | unit :: rest =>
      if unit = BACKSLASH then quotedRest (pending + 1) rest
      else if unit = QUOTE then backslashes (pending * 2 + 1) ++ QUOTE :: quotedRest 0 rest
      else backslashes pending ++ unit :: quotedRest 0 rest

/-- The text of an argument. -/
def argumentText (arg : List UInt16) : List UInt16 :=
  if !needsQuotes arg then arg else QUOTE :: quotedRest 0 arg

theorem foldl_appendUnit (arg line : List UInt16) (pending : Nat) :
    (arg.foldl appendUnit (line, pending)).1 ++ backslashes ((arg.foldl appendUnit (line, pending)).2 * 2) ++ [QUOTE] =
      line ++ quotedRest pending arg := by
  induction arg generalizing line pending with
  | nil => simp [quotedRest]
  | cons unit rest ih =>
      rw [List.foldl_cons, quotedRest]
      by_cases slash : unit = BACKSLASH
      · rw [if_pos slash, ← ih line (pending + 1)]
        simp only [appendUnit, if_pos slash]
      · by_cases quote : unit = QUOTE
        · subst quote
          simp only [appendUnit, if_neg slash, if_true, ih, List.append_assoc, List.singleton_append]
        · simp only [appendUnit, if_neg slash, if_neg quote, ih, List.append_assoc, List.singleton_append]

theorem appendArgument_eq (line arg : List UInt16) : appendArgument line arg = line ++ argumentText arg := by
  unfold appendArgument argumentText
  split
  · rfl
  · have loop := foldl_appendUnit arg (line ++ [QUOTE]) 0
    rw [List.append_assoc line, List.singleton_append] at loop
    exact loop

/-- What follows the program in a line. -/
def argumentTexts (args : List (List UInt16)) : List UInt16 := args.flatMap fun arg => SPACE :: argumentText arg

theorem foldl_appendArgument (args : List (List UInt16)) (line : List UInt16) :
    args.foldl (fun line arg => appendArgument (line ++ [SPACE]) arg) line = line ++ argumentTexts args := by
  induction args generalizing line with
  | nil => simp [argumentTexts]
  | cons arg args ih =>
      rw [List.foldl_cons, ih, appendArgument_eq]
      simp [argumentTexts]

/-- A word ends here: at the end of the line, or at the space before the next argument. -/
def Ends (rest : List UInt16) : Prop := rest = [] ∨ ∃ after, rest = SPACE :: after

theorem ends_argumentTexts (args : List (List UInt16)) : Ends (argumentTexts args) := by
  cases args with
  | nil => exact .inl rfl
  | cons arg args => exact .inr ⟨_, rfl⟩

section
variable (doubled : DoubledQuote) {rest : List UInt16}

theorem splitWord_backslash (quoted : Bool) (pending : Nat) (word : List UInt16) :
    splitWord doubled quoted pending word (BACKSLASH :: rest) = splitWord doubled quoted (pending + 1) word rest := by
  rw [splitWord.eq_def]
  exact if_pos rfl

/-- An odd run of backslashes escapes the quote. -/
theorem splitWord_escaped (quoted : Bool) (count : Nat) (word : List UInt16) :
    splitWord doubled quoted (count * 2 + 1) word (QUOTE :: rest) =
      splitWord doubled quoted 0 (word ++ backslashes count ++ [QUOTE]) rest := by
  have half : (count * 2 + 1) / 2 = count := by omega
  rw [splitWord.eq_def]
  dsimp only
  rw [if_neg (by decide), if_pos rfl, if_pos (by omega), half]

/-- An even run does not, and the quote opens or closes. -/
theorem splitWord_toggles (quoted : Bool) (count : Nat) (word : List UInt16)
    (single : quoted = true → rest.head? ≠ some QUOTE) :
    splitWord doubled quoted (count * 2) word (QUOTE :: rest) =
      splitWord doubled (!quoted) 0 (word ++ backslashes count) rest := by
  have half : count * 2 / 2 = count := by omega
  rw [splitWord.eq_def]
  dsimp only
  rw [if_neg (by decide), if_pos rfl, if_neg (by omega), half]
  cases rest with
  | nil => rfl
  | cons next after =>
      have other : ¬ (quoted && decide (next = QUOTE)) = true := by
        rw [Bool.and_eq_true, decide_eq_true_eq]
        exact fun doubled => single doubled.1 (congrArg some doubled.2)
      dsimp only
      rw [if_neg other]

/-- A unit that is neither a backslash nor a quote is taken, after the backslashes that are pending. -/
theorem splitWord_unit {quoted : Bool} {unit : UInt16} (slash : unit ≠ BACKSLASH) (quote : unit ≠ QUOTE)
    (inside : quoted = true ∨ blank unit = false) (pending : Nat) (word : List UInt16) :
    splitWord doubled quoted pending word (unit :: rest) =
      splitWord doubled quoted 0 (word ++ backslashes pending ++ [unit]) rest := by
  rw [splitWord.eq_def]
  dsimp only
  rw [if_neg slash, if_neg quote, if_neg]
  rcases inside with rfl | solid
  · simp
  · simp [solid]

/-- At its end, a word outside quotes takes the backslashes that are pending. -/
theorem splitWord_ends (ends : Ends rest) (pending : Nat) (word : List UInt16) :
    splitWord doubled false pending word rest = (word ++ backslashes pending, rest) := by
  rw [splitWord.eq_def]
  rcases ends with rfl | ⟨after, rfl⟩
  · rfl
  · dsimp only
    rw [if_neg (by decide), if_neg (by decide), if_pos (by decide)]

theorem splitWord_backslashes (quoted : Bool) (count pending : Nat) (word : List UInt16) :
    splitWord doubled quoted pending word (backslashes count ++ rest) =
      splitWord doubled quoted (pending + count) word rest := by
  induction count generalizing pending with
  | zero => rfl
  | succ count ih =>
      rw [backslashes, List.replicate_succ, List.cons_append, splitWord_backslash, ← backslashes, ih,
        Nat.add_assoc, Nat.add_comm 1]

theorem backslashes_succ (count : Nat) : backslashes (count + 1) = backslashes count ++ [BACKSLASH] :=
  List.replicate_succ'

/-- A unit of an argument that is not quoted is no delimiter. -/
theorem plain_unit {arg : List UInt16} (plain : needsQuotes arg = false) :
    arg ≠ [] ∧ ∀ unit ∈ arg, unit ≠ QUOTE ∧ blank unit = false := by
  simp only [needsQuotes, Bool.or_eq_false_iff, List.isEmpty_eq_false_iff, List.any_eq_false, Bool.not_eq_true,
    decide_eq_false_iff_not] at plain
  refine ⟨plain.1, fun unit member => ?_⟩
  obtain ⟨⟨⟨⟨space, tab⟩, -⟩, -⟩, quote⟩ := plain.2 unit member
  exact ⟨quote, by simp [blank, SPACE, TAB, space, tab]⟩

theorem splitWord_plain (ends : Ends rest) (arg : List UInt16)
    (plain : ∀ unit ∈ arg, unit ≠ QUOTE ∧ blank unit = false) (pending : Nat) (word : List UInt16) :
    splitWord doubled false pending word (arg ++ rest) = (word ++ backslashes pending ++ arg, rest) := by
  induction arg generalizing pending word with
  | nil => rw [List.nil_append, splitWord_ends doubled ends, List.append_nil]
  | cons unit units ih =>
      have ih := ih fun other member => plain other (List.mem_cons_of_mem _ member)
      by_cases slash : unit = BACKSLASH
      · rw [List.cons_append, slash, splitWord_backslash, ih, backslashes_succ]
        simp only [List.append_assoc, List.singleton_append]
      · obtain ⟨quote, solid⟩ := plain unit List.mem_cons_self
        rw [List.cons_append, splitWord_unit doubled slash quote (.inr solid), ih]
        simp [backslashes]

/-- The text of a quoted argument gives it back, whatever is pending. -/
theorem splitWord_quoted (ends : Ends rest) (arg : List UInt16) (pending : Nat) (word : List UInt16) :
    splitWord doubled true 0 word (quotedRest pending arg ++ rest) = (word ++ backslashes pending ++ arg, rest) := by
  induction arg generalizing pending word with
  | nil =>
      have single : rest.head? ≠ some QUOTE := by
        rcases ends with rfl | ⟨after, rfl⟩
        · nofun
        · exact fun same => absurd (Option.some.inj same) (by decide)
      rw [quotedRest, List.append_assoc, splitWord_backslashes, Nat.zero_add, List.singleton_append,
        splitWord_toggles doubled _ _ _ (fun _ => single), Bool.not_true, splitWord_ends doubled ends]
      rfl
  | cons unit units ih =>
      rw [quotedRest]
      by_cases slash : unit = BACKSLASH
      · rw [if_pos slash, ih, slash, backslashes_succ]
        simp only [List.append_assoc, List.singleton_append]
      · rw [if_neg slash]
        by_cases quote : unit = QUOTE
        · rw [if_pos quote, List.append_assoc, splitWord_backslashes, Nat.zero_add, List.cons_append,
            splitWord_escaped, ih, quote]
          simp [backslashes]
        · rw [if_neg quote, List.append_assoc, splitWord_backslashes, Nat.zero_add, List.cons_append,
            splitWord_unit doubled slash quote (.inl rfl), ih]
          simp [backslashes]

/-- Every argument is one word, and begins with something else than whitespace. -/
theorem splitWord_argument (ends : Ends rest) (arg : List UInt16) :
    splitWord doubled false 0 [] (argumentText arg ++ rest) = (arg, rest) ∧
    ∃ unit text, argumentText arg = unit :: text ∧ blank unit = false := by
  unfold argumentText
  cases quoted : needsQuotes arg with
  | false =>
      obtain ⟨some_, plain⟩ := plain_unit quoted
      obtain ⟨unit, text, rfl⟩ := List.exists_cons_of_ne_nil some_
      refine ⟨splitWord_plain doubled ends _ plain 0 [], unit, text, rfl, ?_⟩
      exact (plain unit List.mem_cons_self).2
  | true =>
      refine ⟨?_, QUOTE, _, rfl, by decide⟩
      have opens : splitWord doubled false 0 [] (QUOTE :: (quotedRest 0 arg ++ rest)) =
          splitWord doubled true 0 [] (quotedRest 0 arg ++ rest) :=
        splitWord_toggles doubled false 0 [] nofun
      exact opens.trans (splitWord_quoted doubled ends arg 0 [])

theorem splitWords_argumentTexts (args : List (List UInt16)) : splitWords doubled (argumentTexts args) = args := by
  induction args with
  | nil =>
      rw [splitWords]
      rfl
  | cons arg args ih =>
      obtain ⟨word, unit, text, begins, solid⟩ := splitWord_argument doubled (ends_argumentTexts args) arg
      have line : argumentTexts (arg :: args) = SPACE :: (argumentText arg ++ argumentTexts args) := by
        simp [argumentTexts]
      have skipped : (argumentTexts (arg :: args)).dropWhile blank = unit :: (text ++ argumentTexts args) := by
        rw [line, List.dropWhile_cons, if_pos (by decide), begins, List.cons_append, List.dropWhile_cons,
          if_neg (by simp [solid])]
      rw [begins, List.cons_append] at word
      rw [splitWords.eq_def]
      split
      · rename_i none_
        cases none_.symm.trans skipped
      · rename_i found
        cases found.symm.trans skipped
        rw [word]
        exact congrArg (arg :: ·) ih

end

theorem splitProgram_quoted (program read after : List UInt16) (plain : QUOTE ∉ program) :
    splitProgram true read (program ++ QUOTE :: after) = splitProgram false (read ++ program) after := by
  induction program generalizing read with
  | nil => rw [List.nil_append, List.append_nil, splitProgram, if_neg (by decide), if_pos rfl, Bool.not_true]
  | cons unit units ih =>
      have other : unit ≠ QUOTE := fun same => plain (same ▸ List.mem_cons_self)
      rw [List.cons_append, splitProgram, if_neg (by simp), if_neg other,
        ih _ (fun member => plain (List.mem_cons_of_mem _ member)), List.append_assoc, List.singleton_append]

theorem splitProgram_ends {rest : List UInt16} (ends : Ends rest) (program : List UInt16) :
    splitProgram false program rest = (program, rest) := by
  rcases ends with rfl | ⟨after, rfl⟩
  · rfl
  · rw [splitProgram, if_pos (by decide)]

theorem split_line (doubled : DoubledQuote) {program : List UInt16} (plain : QUOTE ∉ program)
    (args : List (List UInt16)) :
    split doubled ([QUOTE] ++ program ++ [QUOTE] ++ argumentTexts args) = program :: args := by
  have named : splitProgram false [] ([QUOTE] ++ program ++ [QUOTE] ++ argumentTexts args) =
      (program, argumentTexts args) := by
    simp only [List.append_assoc, List.cons_append, List.nil_append]
    rw [splitProgram, if_neg (by decide), if_pos rfl, Bool.not_false, splitProgram_quoted program [] _ plain,
      splitProgram_ends (ends_argumentTexts args), List.nil_append]
  unfold split
  rw [named]
  exact congrArg (program :: ·) (splitWords_argumentTexts doubled args)

/-- A line is made unless the program is empty or has a quote, or anything has a NUL, and it is split back into the
program and its arguments. -/
theorem command_line_round_trips (program : List UInt16) (args : List (List UInt16)) :
    ((∃ error, commandLine program args = .error error) ↔
      program = [] ∨ QUOTE ∈ program ∨ 0 ∈ program ∨ ∃ arg ∈ args, 0 ∈ arg) ∧
    (∀ line, commandLine program args = .ok line → ∀ doubled, split doubled line = program :: args) := by
  have refused : (program.isEmpty || program.contains QUOTE) = true ↔ program = [] ∨ QUOTE ∈ program := by
    simp
  have torn : (program.contains 0 || args.any (·.contains 0)) = true ↔ 0 ∈ program ∨ ∃ arg ∈ args, 0 ∈ arg := by
    simp
  unfold commandLine
  split
  · rename_i unnamed
    exact ⟨⟨fun _ => (refused.mp unnamed).imp_right .inl, fun _ => ⟨_, rfl⟩⟩, nofun⟩
  · rename_i named
    rw [refused, not_or] at named
    split
    · rename_i nul
      exact ⟨⟨fun _ => .inr (.inr (torn.mp nul)), fun _ => ⟨_, rfl⟩⟩, nofun⟩
    · rename_i whole
      rw [torn] at whole
      refine ⟨⟨fun ⟨_, failed⟩ => (by cases failed), ?_⟩, fun line made doubled => ?_⟩
      · rintro (empty | quote | nul)
        · exact absurd empty named.1
        · exact absurd quote named.2
        · exact absurd nul whole
      · cases made
        rw [foldl_appendArgument]
        exact split_line doubled named.2 args

end KunobiDaemon.Local.CommandLine
