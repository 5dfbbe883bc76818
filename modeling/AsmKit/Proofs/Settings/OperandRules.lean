import AsmKit.Proofs.Instruction.Search
import AsmKit.Proofs.Pattern.Whole
import AsmKit.Proofs.Settings.Standard
import AsmKit.Proofs.Text.Classes

/-! # What the standard operand types accept

Each of the three rules accepts the words of a grammar, up to a line feed at the
end, and reads from a word the word itself. -/
namespace AsmKit.Settings
open AsmKit.Pattern
open AsmKit.Text

theorem decodeOperand_of_whole {pattern : Pattern} {body : Node} {token : String} {accepts : Bool}
    (hgroups : pattern.groups = 0) (hbody : pattern.body = .seq (.anchor .textStart) body)
    (hrun : body.run some (.amid [] token.toList) =
      if accepts then some (behindLine [] token.toList []) else none) :
    decodeOperand pattern token =
      if accepts then some (some (String.ofList (chomp token.toList))) else none := by
  have hfind := find?_of_whole hbody hrun
  have hdecode : decodeOperand pattern token =
      ((pattern.find? token.toList).map (·.text)).map fun text => some (String.ofList text) := by
    simp only [decodeOperand, hgroups, beq_self_eq_true, if_true, Option.map_map]
    rfl
  rw [hdecode, hfind]
  cases accepts <;> rfl

section Rules
variable {next : Next} {before after : List Char} {taken : List (Nat × List Char)} {token : String}

/-! ## Names -/

theorem holds_nameStart (c : Char) :
    (Single.oneOf .exact false [.range 65 90, .range 97 122, .point 95]).holds c =
      isNameStart c := by
  simp [Single.holds, SetItem.holds, Folding.alikes, isNameStart, Char.le_def,
    UInt32.le_iff_toNat_le, beq_eq_decide_toNat, Bool.or_assoc, eq_comm]

theorem holds_wordChar (c : Char) :
    (Single.oneOf .exact false [wordChar]).holds c = isWord c := by
  simp [Single.holds, SetItem.holds, wordChar, CharKind.holds]

theorem holds_namePart (c : Char) :
    (Single.oneOf .exact false [wordChar, .point 46]).holds c = isNamePart c := by
  simp [Single.holds, SetItem.holds, Folding.alikes, isNamePart, wordChar, CharKind.holds,
    beq_eq_decide_toNat, eq_comm]

theorem run_name {items : List SetItem} {part : Char → Bool}
    (hpart : ∀ c, (Single.oneOf .exact false items).holds c = part c)
    (hfeed : part '\n' = false) :
    nameStart.run ((many 0 (oneOf items)).run ((Node.anchor .lastLineEnd).run next))
        (.amid before after taken) =
      if isName part (chomp after) then next (behindLine before after taken) else none := by
  by_cases hafter : after = ['\n']
  · subst hafter
    rfl
  · cases after with
    | nil => rfl
    | cons c rest =>
      rw [nameStart, oneOf, run_single_cons, holds_nameStart, many, oneOf,
        run_many_lastLineEnd hpart hfeed, chomp_cons hafter, behindLine_cons hafter]
      cases hc : isNameStart c <;> simp [isName, hc]

theorem decodeOperand_register (token : String) : decodeOperand registerPattern token =
    if isName isWord (chomp token.toList) then some (some (String.ofList (chomp token.toList)))
    else none :=
  decodeOperand_of_whole rfl rfl (run_name holds_wordChar (by decide +kernel))

theorem decodeOperand_labelOperand (token : String) : decodeOperand labelOperandPattern token =
    if isName isNamePart (chomp token.toList) then some (some (String.ofList (chomp token.toList)))
    else none :=
  decodeOperand_of_whole rfl rfl (run_name holds_namePart (by decide +kernel))

/-! ## Numbers -/

theorem holds_point (c : Char) (code : Nat) :
    (Single.oneOf .exact false [.point code]).holds c = decide (c.toNat = code) := by
  simp [Single.holds, SetItem.holds, Folding.alikes, eq_comm]

theorem holds_hexMark (c : Char) :
    (Single.oneOf .exact false [.point 120, .point 88]).holds c = (c == 'x' || c == 'X') := by
  simp [Single.holds, SetItem.holds, Folding.alikes, beq_eq_decide_toNat, eq_comm]

theorem holds_hexDigit (c : Char) :
    (Single.oneOf .exact false [.range 48 57, .range 65 70, .range 97 102]).holds c =
      isHexDigit c := by
  simp [Single.holds, SetItem.holds, Folding.alikes, isHexDigit, Char.le_def,
    UInt32.le_iff_toNat_le, Bool.or_assoc]

theorem holds_digit (c : Char) :
    (Single.oneOf .exact false [.ofKind .digit false false]).holds c = isDecimal c := by
  simp [Single.holds, SetItem.holds, CharKind.holds]

theorem run_hexNumber :
    (oneOf [.point 48]).run ((oneOf [.point 120, .point 88]).run
        ((many 1 (oneOf [.range 48 57, .range 65 70, .range 97 102])).run
          ((Node.anchor .lastLineEnd).run next))) (.amid before after taken) =
      if isHexNumber (chomp after) then next (behindLine before after taken) else none := by
  by_cases hafter : after = ['\n']
  · subst hafter
    rfl
  · match after with
    | [] => rfl
    | [c] =>
      rw [chomp_cons hafter]
      simp [oneOf, chomp, isHexNumber]
    | c :: mark :: digits =>
      rw [chomp_cons hafter, behindLine_cons hafter, oneOf, run_single_cons, holds_point]
      by_cases hmark : mark :: digits = ['\n']
      · rw [hmark]
        simp [oneOf, holds_hexMark, chomp, isHexNumber]
      · rw [chomp_cons hmark, behindLine_cons hmark, oneOf, run_single_cons, holds_hexMark, many,
          oneOf, run_many_one_lastLineEnd holds_hexDigit (by decide)]
        have hzero : (c == '0') = decide (c.toNat = 48) := beq_eq_decide_toNat c '0'
        simp only [isHexNumber, hzero, Bool.and_assoc]
        cases decide (c.toNat = 48) <;> cases (mark == 'x' || mark == 'X') <;> rfl

theorem run_decimalNumber :
    (many 1 (oneOf [.ofKind .digit false false])).run ((Node.anchor .lastLineEnd).run next)
        (.amid before after taken) =
      if !(chomp after).isEmpty && (chomp after).all isDecimal then
        next (behindLine before after taken)
      else none :=
  run_many_one_lastLineEnd holds_digit (by decide +kernel)

/-- A number without a sign, as the rule for numbers has it. -/
def unsignedNode : Node :=
  .group none (.either
    (.ofSequence [oneOf [.point 48], oneOf [.point 120, .point 88],
      many 1 (oneOf [.range 48 57, .range 65 70, .range 97 102])])
    (many 1 (oneOf [.ofKind .digit false false])))

theorem run_unsigned :
    unsignedNode.run ((Node.anchor .lastLineEnd).run next) (.amid before after taken) =
      if isUnsigned (chomp after) then next (behindLine before after taken) else none := by
  have hsplit : unsignedNode.run ((Node.anchor .lastLineEnd).run next) (.amid before after taken) =
      ((oneOf [.point 48]).run ((oneOf [.point 120, .point 88]).run
        ((many 1 (oneOf [.range 48 57, .range 65 70, .range 97 102])).run
          ((Node.anchor .lastLineEnd).run next))) (.amid before after taken)).or
      ((many 1 (oneOf [.ofKind .digit false false])).run ((Node.anchor .lastLineEnd).run next)
        (.amid before after taken)) := run_either _ _ _ _
  rw [hsplit, run_hexNumber, run_decimalNumber, isUnsigned]
  cases isHexNumber (chomp after) <;>
    cases (!(chomp after).isEmpty && (chomp after).all isDecimal) <;> simp

theorem isUnsigned_minus (cs : List Char) : isUnsigned ('-' :: cs) = false := by
  have hdigit : isDecimal '-' = false := by decide +kernel
  cases cs <;> simp [isUnsigned, isHexNumber, hdigit]

theorem isNumber_of_ne_minus {c : Char} (h : c ≠ '-') (rest : List Char) :
    isNumber (chomp (c :: rest)) = isUnsigned (chomp (c :: rest)) := by
  by_cases hfeed : c :: rest = ['\n']
  · rw [hfeed]
    rfl
  · rw [chomp_cons hfeed, isNumber, if_neg (by simpa using h)]

theorem run_number :
    (Node.loop .greedy 0 (some 1) (oneOf [.point 45])).run
        (unsignedNode.run ((Node.anchor .lastLineEnd).run next)) (.amid before after taken) =
      if isNumber (chomp after) then next (behindLine before after taken) else none := by
  cases after with
  | nil => rfl
  | cons c rest =>
    by_cases hminus : c = '-'
    · subst hminus
      have hne : '-' :: rest ≠ ['\n'] := by simp
      rw [oneOf, run_optional_cons (by decide), run_unsigned, run_unsigned, chomp_cons hne,
        behindLine_cons hne, isUnsigned_minus, isNumber]
      simp
    · have hno : decide (c.toNat = 45) = false :=
        (beq_eq_decide_toNat c '-').symm.trans (beq_eq_false_iff_ne.mpr hminus)
      rw [oneOf, run_optional_of_ends (ends_cons ((holds_point c 45).trans hno)), run_unsigned,
        isNumber_of_ne_minus hminus]

theorem decodeOperand_number (token : String) : decodeOperand numberPattern token =
    if isNumber (chomp token.toList) then some (some (String.ofList (chomp token.toList)))
    else none :=
  decodeOperand_of_whole rfl rfl run_number

end Rules

/-! ## Operands under the standard settings -/

/-- Whether a text is a word of a standard operand type. -/
def isOperand (operandType : String) (cs : List Char) : Bool :=
  match operandType with
  | "imm" => isNumber cs
  | "reg" => isName isWord cs
  | _ => isName isNamePart cs

/-- The standard operand types. -/
def standardTypes : List String := ["imm", "reg", "label"]

/-- The rule of a standard type reads a word as itself, and nothing else. -/
theorem exists_standard_rule {operandType : String} (h : operandType ∈ standardTypes) :
    ∃ rule, standard.operandRule operandType = .ok rule ∧ ∀ token, decodeOperand rule token =
      if isOperand operandType (chomp token.toList) then
        some (some (String.ofList (chomp token.toList)))
      else none := by
  simp only [standardTypes, List.mem_cons, List.not_mem_nil, or_false] at h
  rcases h with rfl | rfl | rfl
  · exact ⟨numberPattern, rfl, decodeOperand_number⟩
  · exact ⟨registerPattern, rfl, decodeOperand_register⟩
  · exact ⟨labelOperandPattern, rfl, decodeOperand_labelOperand⟩

theorem isToken_of_isOperand {operandType : String} {cs : List Char}
    (h : isOperand operandType cs = true) : IsToken cs := by
  unfold isOperand at h
  split at h
  · exact isToken_of_isNumber h
  · exact isToken_of_isName isTokenChar_of_isWord h
  · exact isToken_of_isName isTokenChar_of_isNamePart h

/-- A word of the type of numbers is no word of the types of names. -/
theorem isOperand_of_number {operandType : String} {cs : List Char}
    (h : operandType = "reg" ∨ operandType = "label") (hcs : isOperand "imm" cs = true) :
    isOperand operandType cs = false := by
  have hnumber : isNumber cs = true := hcs
  have hname : ∀ part, isName part cs = false := by
    intro part
    rw [← Bool.not_eq_true]
    intro hname
    rw [isNumber_of_isName hname] at hnumber
    cases hnumber
  rcases h with rfl | rfl
  · exact hname isWord
  · exact hname isNamePart

/-- What is read from a token of a standard type: the token, up to a line feed at its end. -/
def standardOperand (token : String) : Option String := some (String.ofList (chomp token.toList))

/-- Tokens of standard types are all words of their types, and are read as themselves, or one of
them is refused. -/
theorem readOperands_standard (mnemonic : String) {pairs : List (String × String)}
    (h : ∀ pair ∈ pairs, pair.2 ∈ standardTypes) :
    (∃ problem, InstructionForm.readOperands standard.operandRule mnemonic pairs =
        .ok (.refused problem)) ∨
      (∀ pair ∈ pairs, isOperand pair.2 (chomp pair.1.toList) = true) ∧
        InstructionForm.readOperands standard.operandRule mnemonic pairs =
          .ok (.accepted (pairs.map fun pair => standardOperand pair.1)) := by
  induction pairs with
  | nil => exact .inr ⟨nofun, rfl⟩
  | cons pair rest ih =>
    obtain ⟨token, operandType⟩ := pair
    obtain ⟨htype, hrest⟩ := List.forall_mem_cons.mp h
    obtain ⟨rule, hrule, hdecode⟩ := exists_standard_rule htype
    rw [InstructionForm.readOperands, hrule]
    dsimp only
    rw [hdecode]
    by_cases hword : isOperand operandType (chomp token.toList) = true
    · rw [if_pos hword]
      rcases ih hrest with ⟨problem, hrefused⟩ | ⟨hwords, haccepted⟩
      · exact .inl ⟨problem, by rw [hrefused]⟩
      · exact .inr ⟨List.forall_mem_cons.mpr ⟨hword, hwords⟩, by rw [haccepted]; rfl⟩
    · rw [if_neg hword]
      exact .inl ⟨_, rfl⟩

section Forms
variable {α : Type} {form : InstructionForm α} {tokens : List String}

/-- A form of standard types refuses tokens, or takes words of its types as they are. -/
theorem read_standard (h : ∀ operandType ∈ form.operandTypes, operandType ∈ standardTypes)
    (tokens : List String) :
    (∃ problem, ∀ lineNumber text,
      form.read standard.operandRule tokens lineNumber text = .ok (.refused problem)) ∨
    (∀ token ∈ tokens, IsToken (chomp token.toList)) ∧ ∀ lineNumber text,
      form.read standard.operandRule tokens lineNumber text = .ok (.accepted
        ⟨lineNumber, text, form.mnemonic, tokens.map standardOperand, form.executor⟩) := by
  by_cases hlength : tokens.length = form.operandTypes.length
  · have htypes : ∀ pair ∈ tokens.zip form.operandTypes, pair.2 ∈ standardTypes :=
      fun pair hpair => h _ (List.of_mem_zip hpair).2
    have hfirst : (tokens.zip form.operandTypes).map Prod.fst = tokens :=
      List.map_fst_zip (by omega)
    rcases readOperands_standard form.mnemonic htypes with
      ⟨problem, hrefused⟩ | ⟨hwords, haccepted⟩
    · refine .inl ⟨problem, fun lineNumber text => ?_⟩
      simp [InstructionForm.read, InstructionForm.arity, hlength, hrefused]
    · refine .inr ⟨fun token htoken => ?_, fun lineNumber text => ?_⟩
      · rw [← hfirst] at htoken
        obtain ⟨pair, hpair, rfl⟩ := List.mem_map.mp htoken
        exact isToken_of_isOperand (hwords pair hpair)
      · have hoperands : (tokens.zip form.operandTypes).map (fun pair => standardOperand pair.1) =
            tokens.map standardOperand := by
          conv => rhs; rw [← hfirst, List.map_map]
          rfl
        simp [InstructionForm.read, InstructionForm.arity, hlength, haccepted, hoperands]
  · refine .inl ⟨.wrongCount form.mnemonic form.arity tokens.length, fun lineNumber text => ?_⟩
    simp [InstructionForm.read, InstructionForm.arity, hlength]

theorem read_of_accepts (h : ∀ operandType ∈ form.operandTypes, operandType ∈ standardTypes)
    (haccepts : form.accepts standard tokens = true) :
    (∀ token ∈ tokens, IsToken (chomp token.toList)) ∧ ∀ lineNumber text,
      form.read standard.operandRule tokens lineNumber text = .ok (.accepted
        ⟨lineNumber, text, form.mnemonic, tokens.map standardOperand, form.executor⟩) := by
  rcases read_standard h tokens with ⟨problem, hrefused⟩ | haccepted
  · simp [InstructionForm.accepts, hrefused] at haccepts
  · exact haccepted

theorem read_of_not_accepts (h : ∀ operandType ∈ form.operandTypes, operandType ∈ standardTypes)
    (haccepts : form.accepts standard tokens = false) (lineNumber : Int) (text : String) :
    ∃ problem,
      form.read standard.operandRule tokens lineNumber text = .ok (.refused problem) := by
  rcases read_standard h tokens with ⟨problem, hrefused⟩ | ⟨-, haccepted⟩
  · exact ⟨problem, hrefused lineNumber text⟩
  · simp [InstructionForm.accepts, haccepted] at haccepts

/-- A form of one standard type takes a word of the type as it is, and nothing else. -/
theorem read_word {operandType : String} (htypes : form.operandTypes = [operandType])
    (htype : operandType ∈ standardTypes) (token : String) (lineNumber : Int) (text : String) :
    form.read standard.operandRule [token] lineNumber text =
      if isOperand operandType (chomp token.toList) then
        .ok (.accepted
          ⟨lineNumber, text, form.mnemonic, [standardOperand token], form.executor⟩)
      else .ok (.refused (.badOperand form.mnemonic token operandType)) := by
  obtain ⟨rule, hrule, hdecode⟩ := exists_standard_rule htype
  by_cases hword : isOperand operandType (chomp token.toList) = true
  · simp [InstructionForm.read, InstructionForm.arity, htypes, InstructionForm.readOperands,
      hrule, hdecode, hword, standardOperand]
  · simp [InstructionForm.read, InstructionForm.arity, htypes, InstructionForm.readOperands,
      hrule, hdecode, hword]

theorem standardOperand_of_notMem {token : String} (h : '\n' ∉ token.toList) :
    standardOperand token = some token := by
  rw [standardOperand, chomp_of_notMem h, String.ofList_toList]

end Forms
end AsmKit.Settings
