import AsmKit.Proofs.Datum
import AsmKit.Proofs.Machine.Step
import AsmKit.Proofs.Number.Decimal
import AsmKit.Proofs.Program.Reached
import AsmKit.Proofs.Settings.Standard

/-! # Jumps

A jump succeeds where its target names a position inside the program. Then the
counter is all that it changes, and neither the position nor the success
depends on where the machine stood. In all other cases the machine stays as it
is. A text names the position of a label, or else the number that it denotes in
decimal digits. A text of digits that are not all decimal, or too many, names
none, and a jump to it does not fail as jumps do elsewhere; nor does a jump
whose target would have to be shown and cannot be. -/
namespace AsmKit
open Text

namespace Program
variable {α : Type} {program : Program α} {name : String}

/-- The position that a text names: that of the label, or else the number it denotes. -/
inductive Names (program : Program α) (name : String) : Int → Prop
  | label {position : Int} : program.label? name = some position → Names program name position
  | number : program.label? name = none → IsDecimalNumber name →
      name.toList.length ≤ Integer.digitLimit → Names program name (decimalNumber name.toList)

theorem label?_eq_none (h : ∀ position, ¬ program.Names name position) :
    program.label? name = none := by
  rw [Option.eq_none_iff_forall_ne_some]
  intro position hlabel
  exact h position (.label hlabel)

end Program

/-- A text of digits that no number is read from: some of them are not decimal, or there are too
many in front of those. -/
inductive Unread (name : String) : Integer.Fault → Prop
  | loose : IsLooseNumber name → decimalFront name.toList ≤ Integer.digitLimit →
      Unread name .notANumber
  | tooLong : (∀ c ∈ name.toList, isDigit c = true) →
      Integer.digitLimit < decimalFront name.toList →
      Unread name (.tooLong (decimalFront name.toList))

namespace Machine
variable {α σ : Type} {m : Machine α σ} {room : Nat} {name : String}

/-! ## Targets -/

theorem target_of_names (room : Nat) {position : Int} (h : m.program.Names name position) :
    m.target room (.text name) = .ok (.ok position) := by
  cases h with
  | label hlabel => simp only [target, hlabel]
  | number hnone hdecimal hlength =>
    have hdigits := allDigits_iff.mpr (.inl hdecimal)
    simp only [target, hnone, hdigits, if_true, Integer.read_of_isDecimalNumber hdecimal hlength]

theorem target_of_unread (room : Nat) {cause : Integer.Fault}
    (hnone : m.program.label? name = none) (hunread : Unread name cause) :
    m.target room (.text name) = .error (.targetUnread name cause) := by
  cases hunread with
  | loose hloose hfront =>
    have hdigits := allDigits_iff.mpr (.inr hloose)
    simp only [target, hnone, hdigits, if_true, Integer.read_of_isLooseNumber hloose hfront]
  | tooLong hall hfront =>
    have hne : name ≠ "" := by
      rintro rfl
      cases hfront
    have hdigits : (name != "" && name.toList.all isDigit) = true := by
      simp only [Bool.and_eq_true, bne_iff_ne, List.all_eq_true]
      exact ⟨hne, hall⟩
    simp only [target, hnone, hdigits, if_true, Integer.read_of_tooLong hall hfront]

/-- A text of digits is read as a number or not. -/
theorem unread_or_names (hnone : m.program.label? name = none)
    (hdigits : (name != "" && name.toList.all isDigit) = true) :
    (∃ cause, Unread name cause) ∨ ∃ position, m.program.Names name position := by
  have hall : ∀ c ∈ name.toList, isDigit c = true :=
    List.all_eq_true.mp (Bool.and_eq_true_iff.mp hdigits).2
  by_cases hfront : Integer.digitLimit < decimalFront name.toList
  · exact .inl ⟨_, .tooLong hall hfront⟩
  · rcases allDigits_iff.mp hdigits with hdecimal | hloose
    · rw [decimalFront_of_isDecimal hdecimal.2] at hfront
      exact .inr ⟨_, .number hnone hdecimal (Nat.le_of_not_lt hfront)⟩
    · exact .inl ⟨_, .loose hloose (Nat.le_of_not_lt hfront)⟩

theorem target_of_unknown (room : Nat) (hnames : ∀ position, ¬ m.program.Names name position)
    (hread : ∀ cause, ¬ Unread name cause) :
    m.target room (.text name) = .ok (.error (.noSuchLabel name)) := by
  have hnone := Program.label?_eq_none hnames
  have hdigits : ¬ (name != "" && name.toList.all isDigit) = true := by
    intro hall
    rcases unread_or_names hnone hall with ⟨cause, hunread⟩ | ⟨position, hposition⟩
    · exact hread cause hunread
    · exact hnames position hposition
  simp only [target, hnone, if_neg hdigits]

/-- Data of any other shape stand for no position, and are shown if they can be. -/
theorem target_of_shape (m : Machine α σ) (room : Nat) {destination : Datum}
    (htext : ∀ name, destination ≠ .text name) (hint : ∀ position, destination ≠ .int position) :
    m.target room destination = .error (match destination.shown room with
      | .ok literal => .badTarget literal m.place.1 m.place.2
      | .error obstacle => .unshown obstacle) := by
  cases destination with
  | text name => exact absurd rfl (htext name)
  | int n => exact absurd rfl (hint n)
  | null | bool _ | float _ | list _ | record _ =>
    unfold target
    dsimp only
    generalize Datum.shown room _ = outcome
    cases outcome <;> rfl

/-- Whether a target stands for a position, and for which, is a matter of the program alone. -/
theorem target_eq_of_program {other : Machine α σ} {destination : Datum} {position : Int}
    (hprogram : other.program = m.program) (h : m.target room destination = .ok (.ok position))
    (otherRoom : Nat) : other.target otherRoom destination = .ok (.ok position) := by
  cases destination with
  | text name =>
    unfold target at h ⊢
    rw [hprogram]
    exact h
  | int n => exact h
  | null | bool _ | float _ | list _ | record _ =>
    unfold target at h
    dsimp only at h
    split at h <;> cases h

theorem jump_of_fault {destination : Datum} {fault : MachineFault}
    (h : m.target room destination = .error fault) :
    m.jump room destination = (.error fault, m) := by
  simp only [jump, h]

theorem jump_of_problem {destination : Datum} {problem : Problem}
    (h : m.target room destination = .ok (.error problem)) :
    m.jump room destination = (.ok (some problem), m) := by
  simp only [jump, h]

/-- A jump that succeeds had a target that stands for a position inside the program. -/
theorem exists_target_of_jump {destination : Datum} (h : (m.jump room destination).1 = .ok none) :
    ∃ position, m.target room destination = .ok (.ok position) ∧ m.program.Inside position := by
  cases htarget : m.target room destination with
  | error fault => rw [jump_of_fault htarget] at h; cases h
  | ok found =>
    cases found with
    | error problem => rw [jump_of_problem htarget] at h; cases h
    | ok position =>
      refine ⟨position, rfl, ?_⟩
      by_contra hinside
      rw [(jump_of_target htarget).2 hinside] at h
      cases h

/-! ## Texts -/

/-- A jump to a text fails for the position that it names, or else the text is one of digits that no
number is read from. -/
theorem unread_of_jump {fault : MachineFault}
    (h : (m.jump room (.text name)).1 = .error fault) (hkind : fault.kind ≠ .execution) :
    (m.program.label? name = none ∧ ∃ cause, Unread name cause) ∨
      ∃ position, m.program.Names name position ∧ ¬ m.program.Inside position ∧
        ¬ m.program.CanTell position := by
  by_cases hnamed : ∃ position, m.program.Names name position
  · obtain ⟨position, hnames⟩ := hnamed
    obtain ⟨hgo, hrefuse⟩ := jump_of_target (target_of_names room hnames)
    by_cases hinside : m.program.Inside position
    · rw [hgo hinside] at h
      cases h
    · refine .inr ⟨position, hnames, hinside, fun htell => hkind ?_⟩
      rw [hrefuse hinside, outside_of_canTell htell] at h
      cases h
      rfl
  · have hnames := not_exists.mp hnamed
    by_cases hunread : ∃ cause, Unread name cause
    · exact .inl ⟨Program.label?_eq_none hnames, hunread⟩
    · rw [jump_of_problem (target_of_unknown room hnames (not_exists.mp hunread))] at h
      cases h

/-- A text that names a position is gone to or refused as the position is. One that names none is
an unknown label, unless it consists of digits which are not all decimal, or of which too many stand
in front. Such a text passes for a number, but none can be read from it, and the jump fails for
this. In no other case does a jump to a text fail but for a position outside the program, and with a
fault of the execution if the position can be told. -/
theorem text_goes_where_it_names (m : Machine α σ) (room : Nat) (name : String) :
    (∀ position, m.program.Names name position →
      (m.program.Inside position → m.jump room (.text name) =
        (.ok none, { m.report (.jumped name position) with counter := position })) ∧
      (¬ m.program.Inside position → ∃ fault, m.jump room (.text name) = (.error fault, m) ∧
        (m.program.CanTell position → fault.kind = .execution ∧
          fault = .targetOutside position m.program.lineCount m.place.1 m.place.2) ∧
        (¬ m.program.CanTell position → fault = .unshown .longNumber))) ∧
    ((∀ position, ¬ m.program.Names name position) →
      ((∀ cause, ¬ Unread name cause) →
        m.jump room (.text name) = (.ok (some (.noSuchLabel name)), m)) ∧
      ∀ cause, Unread name cause →
        m.jump room (.text name) = (.error (.targetUnread name cause), m)) ∧
    ((∃ fault, (m.jump room (.text name)).1 = .error fault ∧ fault.kind ≠ .execution) ↔
      (m.program.label? name = none ∧ ∃ cause, Unread name cause) ∨
        ∃ position, m.program.Names name position ∧ ¬ m.program.Inside position ∧
          ¬ m.program.CanTell position) := by
  refine ⟨fun position hnames => ?_, fun hnames => ⟨fun hread => ?_, fun cause hunread => ?_⟩, ?_⟩
  · obtain ⟨hgo, hrefuse⟩ := jump_of_target (target_of_names room hnames)
    refine ⟨hgo, fun houtside => ⟨_, hrefuse houtside, fun htell => ?_, outside_of_not_canTell⟩⟩
    rw [outside_of_canTell htell]
    exact ⟨rfl, rfl⟩
  · exact jump_of_problem (target_of_unknown room hnames hread)
  · exact jump_of_fault (target_of_unread room (Program.label?_eq_none hnames) hunread)
  · constructor
    · rintro ⟨fault, hfault, hkind⟩
      exact unread_of_jump hfault hkind
    · rintro (⟨hnone, cause, hunread⟩ | ⟨position, hnames, houtside, htell⟩)
      · have hjump := jump_of_fault (target_of_unread room hnone hunread)
        exact ⟨_, congrArg Prod.fst hjump, nofun⟩
      · have hjump := (jump_of_target (target_of_names room hnames)).2 houtside
        rw [outside_of_not_canTell htell] at hjump
        exact ⟨_, congrArg Prod.fst hjump, nofun⟩

/-- In a program of two lines without labels, a jump to a raised two fails as reading a number
does. -/
theorem raised_two_is_no_target :
    ∃ (report : Report Nat) (later : LineSource),
      Program.read [⟨"nop", [], some 7⟩] .standard
        (.text (.ofText .standard "nop\nnop".toList)) = .ok (report, later) ∧
      report.ending = .complete ∧ report.program.labels = [] ∧ report.program.lineCount = 2 ∧
      ∀ (memory : Memory) (counter : Int) (room : Nat),
        let m : Machine Nat Unit := { program := report.program, memory, counter, host := () }
        m.jump room (.text "²") = (.error (.targetUnread "²" .notANumber), m) ∧
        (MachineFault.targetUnread "²" .notANumber).kind = .badValue ∧
        FaultKind.badValue ≠ .execution := by
  obtain ⟨report, later, hread, hending, hlabels, hcount⟩ :
      ∃ (report : Report Nat) (later : LineSource),
      Program.read [⟨"nop", [], some 7⟩] .standard
        (.text (.ofText .standard "nop\nnop".toList)) = .ok (report, later) ∧
      report.ending = .complete ∧ report.program.labels = [] ∧ report.program.lineCount = 2 :=
    ⟨_, _, Program.read_text _ _ _, by decide +kernel, by decide +kernel, by decide +kernel⟩
  refine ⟨report, later, hread, hending, hlabels, hcount, fun memory counter room => ?_⟩
  have hnone : report.program.label? "²" = none := by
    rw [Program.label?, hlabels]
    rfl
  have hdigits : "²".toList.all isDigit = true := by decide +kernel
  have hloose : IsLooseNumber "²" :=
    ⟨List.all_eq_true.mp hdigits, '²', by decide, by decide +kernel⟩
  exact ⟨jump_of_fault (target_of_unread room hnone (.loose hloose (by decide +kernel))), rfl,
    nofun⟩

/-! ## All targets -/

/-- A jump that succeeds goes to a position inside the program, and changes the counter alone but
for what it reports. It does the same to every machine over the program, whatever the counter, the
memory and the current instruction are, and so it changes nothing when it is repeated. A jump that
does not succeed leaves the machine as it is. A number is a position, and is refused with a fault of
the execution where it lies outside the program and can be told. So is whatever is neither a number
nor a text, unless something hinders that it is shown. -/
theorem jump_is_atomic (m : Machine α σ) (room : Nat) (destination : Datum) :
    ((m.jump room destination).1 = .ok none → ∃ position, m.program.Inside position ∧
      ∀ (other : Machine α σ) (otherRoom : Nat), other.program = m.program →
        let event := Log.Event.jumped (targetText destination) position
        let later := { other.report event with counter := position }
        other.jump otherRoom destination = (.ok none, later) ∧
        later.jump otherRoom destination = (.ok none, later.report event)) ∧
    ((m.jump room destination).1 ≠ .ok none → (m.jump room destination).2 = m) ∧
    (∀ position, destination = .int position →
      ((m.jump room destination).1 = .ok none ↔ m.program.Inside position) ∧
      (¬ m.program.Inside position → ∃ fault, (m.jump room destination).1 = .error fault ∧
        (m.program.CanTell position → fault.kind = .execution) ∧
        (¬ m.program.CanTell position → fault = .unshown .longNumber))) ∧
    ((∀ name, destination ≠ .text name) → (∀ position, destination ≠ .int position) →
      ∃ fault, (m.jump room destination).1 = .error fault ∧
        (fault.kind = .execution ∧ (∀ obstacle, ¬ destination.Hinders room obstacle) ∨
          ∃ obstacle, fault = .unshown obstacle ∧ destination.Hinders room obstacle)) := by
  refine ⟨fun hjump => ?_, fun hjump => ?_, fun position hposition => ?_, fun htext hint => ?_⟩
  · obtain ⟨position, htarget, hinside⟩ := exists_target_of_jump hjump
    refine ⟨position, hinside, fun other otherRoom hprogram => ?_⟩
    -- the same equation serves the machine behind the jump, which has the program too
    have hgo : ∀ machine : Machine α σ, machine.program = m.program →
        machine.jump otherRoom destination = (.ok none,
          { machine.report (.jumped (targetText destination) position) with
            counter := position }) := by
      intro machine hsame
      refine (jump_of_target (target_eq_of_program hsame htarget otherRoom)).1 ?_
      rw [hsame]
      exact hinside
    exact ⟨hgo other hprogram, hgo _ hprogram⟩
  · rcases m.jump_cases room destination with ⟨position, -, -, hgo⟩ | ⟨-, hsame⟩
    · rw [hgo] at hjump
      exact absurd rfl hjump
    · exact hsame
  · subst hposition
    have htarget : m.target room (.int position) = .ok (.ok position) := rfl
    obtain ⟨hgo, hrefuse⟩ := jump_of_target htarget
    refine ⟨⟨fun hjump => ?_, fun hinside => by rw [hgo hinside]⟩, fun houtside => ?_⟩
    · obtain ⟨_, hstands, hinside⟩ := exists_target_of_jump hjump
      cases hstands
      exact hinside
    · refine ⟨_, congrArg Prod.fst (hrefuse houtside), fun htell => ?_, outside_of_not_canTell⟩
      rw [outside_of_canTell htell]
      rfl
  · have hjump := jump_of_fault (target_of_shape m room htext hint)
    refine ⟨_, congrArg Prod.fst hjump, ?_⟩
    rcases destination.shown_cases room with ⟨hshown, hclear⟩ | ⟨obstacle, hshown, hhinders⟩
    · rw [hshown]
      exact .inl ⟨rfl, hclear⟩
    · rw [hshown]
      exact .inr ⟨obstacle, rfl, hhinders⟩

/-- A position of too many digits is outside every program of one line, but the jump to it fails in
another way than the execution does, whatever the room is. So does the jump to a list of it. -/
theorem long_position_is_refused_otherwise :
    ∃ (report : Report Nat) (later : LineSource),
      Program.read [⟨"nop", [], some 7⟩] .standard
        (.text (.ofText .standard "nop".toList)) = .ok (report, later) ∧
      report.ending = .complete ∧ report.program.lineCount = 1 ∧
      ∀ room : Nat,
        let m : Machine Nat Unit := { program := report.program, host := () }
        let position : Int := 10 ^ Integer.digitLimit
        ¬ m.program.Inside position ∧
        m.jump room (.int position) = (.error (.unshown .longNumber), m) ∧
        m.jump (room + 2) (.list [.int position]) = (.error (.unshown .longNumber), m) ∧
        (MachineFault.unshown .longNumber).kind = .badValue ∧
        FaultKind.badValue ≠ .execution := by
  obtain ⟨report, later, hread, hending, hcount⟩ :
      ∃ (report : Report Nat) (later : LineSource),
      Program.read [⟨"nop", [], some 7⟩] .standard
        (.text (.ofText .standard "nop".toList)) = .ok (report, later) ∧
      report.ending = .complete ∧ report.program.lineCount = 1 :=
    ⟨_, _, Program.read_text _ _ _, by decide +kernel, by decide +kernel⟩
  refine ⟨report, later, hread, hending, hcount, fun room => ?_⟩
  intro m position
  have hlong : ¬ Integer.IsShort position := by decide +kernel
  have houtside : ¬ m.program.Inside position := by
    rintro ⟨-, hhigh⟩
    have hone : ((m.program.lineCount : Nat) : Int) = 1 := congrArg Nat.cast hcount
    rw [hone] at hhigh
    revert hhigh
    decide +kernel
  have htarget : m.target room (.int position) = .ok (.ok position) := rfl
  have hint := (jump_of_target htarget).2 houtside
  have hshown : (Datum.list [.int position]).shown (room + 2) = .error .longNumber := by
    simp [Datum.shown, Datum.unshown?, Datum.unshownItem?, hlong]
  have hlist : m.target (room + 2) (.list [.int position]) = .error (.unshown .longNumber) := by
    have htext : ∀ name, Datum.list [.int position] ≠ .text name := fun _ => nofun
    have hint : ∀ other, Datum.list [.int position] ≠ .int other := fun _ => nofun
    rw [target_of_shape m _ htext hint, hshown]
  refine ⟨houtside, ?_, jump_of_fault hlist, rfl, nofun⟩
  rw [hint, outside_of_not_canTell fun htell => hlong htell.1]

end Machine
end AsmKit
