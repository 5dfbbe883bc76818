import AsmKit.Proofs.Machine.Walking

/-! # Runs of straight-line programs

Where no executor fails or moves the counter, a run has no choice: it calls the
executors of the instructions from the counter on, one after the other, until
one says to stop or none is left. The calls are said here without reference to
runs or steps. Main statement: these calls are the ones a run makes. -/
namespace AsmKit

namespace Program
variable {α : Type}

/-- The instructions of a program in order, each with its position. -/
def filled (program : Program α) : List (Int × Instruction α) :=
  (program.slots.zipIdx 1).filterMap fun entry => entry.1.map fun instruction =>
    (entry.2, instruction)

/-- The instructions that stand at a position or behind it. -/
def filledFrom (program : Program α) (start : Int) : List (Int × Instruction α) :=
  program.filled.filter fun entry => start ≤ entry.1

theorem filledFrom_congr {program other : Program α} (h : program.slots = other.slots)
    (start : Int) : program.filledFrom start = other.filledFrom start := by
  rw [filledFrom, filledFrom, filled, filled, h]

section Filled
variable {program : Program α} {start position : Int} {instruction : Instruction α}

theorem mem_filled_iff :
    (position, instruction) ∈ program.filled ↔ program.get? position = some instruction := by
  rw [get?_eq_some_iff, filled, List.mem_filterMap]
  constructor
  · rintro ⟨⟨slot, index⟩, hslot, hentry⟩
    obtain ⟨hpos, hget⟩ := List.mk_mem_zipIdx_iff_le_and_getElem?_sub.mp hslot
    obtain ⟨found, rfl, heq⟩ := Option.map_eq_some_iff.mp hentry
    obtain ⟨rfl, rfl⟩ := Prod.mk.inj heq
    have hindex : ((index : Int) - 1).toNat = index - 1 := by omega
    exact ⟨by omega, by rw [hindex]; exact hget⟩
  · rintro ⟨hpos, hslot⟩
    have hindex : ((position.toNat : Nat) : Int) = position := by omega
    have hsame : position.toNat - 1 = (position - 1).toNat := by omega
    refine ⟨(some instruction, position.toNat), ?_, by rw [Option.map_some, hindex]⟩
    exact List.mk_mem_zipIdx_iff_le_and_getElem?_sub.mpr ⟨by omega, by rw [hsame]; exact hslot⟩

theorem mem_filledFrom_iff : (position, instruction) ∈ program.filledFrom start ↔
    start ≤ position ∧ program.get? position = some instruction := by
  rw [filledFrom, List.mem_filter, mem_filled_iff, decide_eq_true_iff, and_comm]

theorem pairwise_filled (program : Program α) : program.filled.Pairwise (·.1 < ·.1) := by
  have hindices : (program.slots.zipIdx 1).Pairwise (·.2 < ·.2) := by
    rw [← List.pairwise_map (f := Prod.snd) (R := (· < ·)), List.zipIdx_map_snd]
    exact List.pairwise_lt_range'
  refine List.Pairwise.filterMap _
    (fun entry other hlt found hfound another hanother => ?_) hindices
  obtain ⟨_, -, rfl⟩ := Option.map_eq_some_iff.mp hfound
  obtain ⟨_, -, rfl⟩ := Option.map_eq_some_iff.mp hanother
  exact Int.ofNat_lt.mpr hlt

theorem length_filled (program : Program α) : program.filled.length = program.instructionTotal := by
  have hslots : (program.slots.zipIdx 1).map Prod.fst = program.slots := List.zipIdx_map_fst 1 _
  rw [filled, List.length_filterMap_eq_countP, instructionTotal]
  conv_rhs => rw [← hslots, List.countP_map]
  refine List.countP_congr fun entry _ => ?_
  simp

/-- There is no slot in front of the first. -/
theorem filledFrom_max_one (program : Program α) (start : Int) :
    program.filledFrom (max start 1) = program.filledFrom start := by
  refine List.filter_congr fun ⟨position, instruction⟩ hmem => ?_
  have hpos := (get?_eq_some_iff.mp (mem_filled_iff.mp hmem)).1
  rw [decide_eq_decide]
  omega

theorem filledFrom_one (program : Program α) : program.filledFrom 1 = program.filled := by
  refine List.filter_eq_self.mpr fun ⟨position, instruction⟩ hmem => ?_
  exact decide_eq_true (get?_eq_some_iff.mp (mem_filled_iff.mp hmem)).1

theorem filledFrom_eq_nil (h : ∀ position, start ≤ position → program.get? position = none) :
    program.filledFrom start = [] := by
  rw [List.eq_nil_iff_forall_not_mem]
  rintro ⟨position, instruction⟩ hmem
  obtain ⟨hstart, hget⟩ := mem_filledFrom_iff.mp hmem
  rw [h position hstart] at hget
  cases hget

/-- Lists of positions in ascending order are equal if the same entries are in them. -/
theorem eq_of_ordered {entries others : List (Int × Instruction α)}
    (h : entries.Pairwise (·.1 < ·.1)) (h' : others.Pairwise (·.1 < ·.1))
    (hmem : ∀ entry, entry ∈ entries ↔ entry ∈ others) : entries = others := by
  have hnodup : ∀ {entries : List (Int × Instruction α)}, entries.Pairwise (·.1 < ·.1) →
      entries.Nodup :=
    fun h => h.imp fun hlt heq => absurd (congrArg Prod.fst heq) (Int.ne_of_lt hlt)
  refine List.Perm.eq_of_pairwise (fun entry other _ _ hlt hgt => ?_) h h'
    ((List.perm_ext_iff_of_nodup (hnodup h) (hnodup h')).mpr hmem)
  exact absurd hgt (Int.lt_asymm hlt)

/-- The first instruction from a position on is in front of those behind it. -/
theorem filledFrom_of_firstFrom (h : program.FirstFrom start position instruction) :
    program.filledFrom start = (position, instruction) :: program.filledFrom (position + 1) := by
  have hordered : ∀ start, (program.filledFrom start).Pairwise (·.1 < ·.1) :=
    fun start => program.pairwise_filled.filter _
  refine eq_of_ordered (hordered start) (List.pairwise_cons.mpr ⟨?_, hordered _⟩) ?_
  · rintro ⟨other, another⟩ hmem
    have hbehind := (mem_filledFrom_iff.mp hmem).1
    omega
  · rintro ⟨other, another⟩
    rw [List.mem_cons, mem_filledFrom_iff, mem_filledFrom_iff, Prod.mk.injEq]
    constructor
    · rintro ⟨hstart, hget⟩
      rcases Int.lt_trichotomy other position with hlt | rfl | hgt
      · rw [h.empty_between other hstart hlt] at hget
        cases hget
      · rw [h.get?_eq] at hget
        exact .inl ⟨rfl, (Option.some.inj hget).symm⟩
      · exact .inr ⟨hgt, hget⟩
    · have hstart := h.start_le
      rintro (⟨rfl, rfl⟩ | ⟨hbehind, hget⟩)
      · exact ⟨hstart, h.get?_eq⟩
      · exact ⟨by omega, hget⟩

end Filled
end Program

namespace Call
variable {α σ : Type}

/-- The executor has left the counter and the slots as it was handed them. -/
structure Straight (call : Call α σ) : Prop where
  counter : call.left.counter = call.given.counter
  slots : call.left.program.slots = call.given.program.slots

/-- The executor has answered with null, or with a datum that counts as true. -/
def GoesOn (call : Call α σ) : Prop :=
  ∃ answer, call.answer = .ok answer ∧ (answer = .null ∨ answer.isTrue = true)

/-- The executor has answered with a datum other than null that counts as false. -/
def Stops (call : Call α σ) : Prop :=
  ∃ answer, call.answer = .ok answer ∧ answer ≠ .null ∧ answer.isTrue = false

theorem goesOn_iff {answer : Datum} :
    answer.goesOn = true ↔ answer = .null ∨ answer.isTrue = true := by
  cases answer <;> simp [Datum.goesOn, Datum.isTrue]

/-- The call with a record beside what the executors keep. An instruction without an executor is
not put down in it. -/
def withRecord (call : Call α σ) (record : List (Instruction α)) :
    Call α (σ × List (Instruction α)) where
  instruction := call.instruction
  given := call.given.withRecord record
  answer := call.answer
  left := call.left.withRecord (record ++ [call.instruction].filter (·.executor.isSome))

end Call

namespace Machine
variable {α σ : Type}

/-- The calls of instructions, one after the other. Each executor is handed the machine that the
one before it has left, with the counter behind the position of its own instruction. -/
def callsInTurn (executors : Executors α σ) :
    List (Int × Instruction α) → Machine α σ → List (Call α σ)
  | [], _ => []
  | (position, instruction) :: rest, m =>
    let texts := instruction.operands.reduceOption
    let call := callOf executors (m.handed position instruction texts) instruction
    call :: callsInTurn executors rest call.left

/-- The machine behind calls that start from a machine. -/
def leftBehind (m : Machine α σ) (calls : List (Call α σ)) : Machine α σ :=
  (calls.getLast?.map Call.left).getD m

theorem leftBehind_cons (m : Machine α σ) (call : Call α σ) (calls : List (Call α σ)) :
    m.leftBehind (call :: calls) = call.left.leftBehind calls := by
  cases calls with
  | nil => rfl
  | cons next rest => rw [leftBehind, leftBehind, List.getLast?_cons_cons]; rfl

section Calls
variable {executors : Executors α σ} {m : Machine α σ} {queue : List (Int × Instruction α)}
  {position : Int} {instruction : Instruction α}

theorem callOf_instruction (given : Machine α σ) :
    (callOf executors given instruction).instruction = instruction := by
  unfold callOf
  split <;> rfl

theorem callOf_given (given : Machine α σ) :
    (callOf executors given instruction).given = given := by
  unfold callOf
  split <;> rfl

variable (executors m queue) in
theorem map_instruction_callsInTurn :
    (m.callsInTurn executors queue).map Call.instruction = queue.map Prod.snd := by
  induction queue generalizing m with
  | nil => rfl
  | cons entry rest ih => rw [callsInTurn, List.map_cons, List.map_cons, ih, callOf_instruction]

variable (executors m queue) in
theorem length_callsInTurn : (m.callsInTurn executors queue).length = queue.length := by
  simpa using congrArg List.length (map_instruction_callsInTurn executors m queue)

/-- Each call finds the counter behind its own instruction. -/
theorem getElem?_callsInTurn {index : Nat} {call : Call α σ}
    (h : (m.callsInTurn executors queue)[index]? = some call) :
    ∃ position, queue[index]? = some (position, call.instruction) ∧
      call.given.counter = position + 1 := by
  induction queue generalizing m index with
  | nil => cases h
  | cons entry rest ih =>
    obtain ⟨position, instruction⟩ := entry
    cases index with
    | zero =>
      obtain rfl := Option.some.inj h
      exact ⟨position, by rw [callOf_instruction]; rfl, by rw [callOf_given]; rfl⟩
    | succ index => exact ih h

variable (executors) in
theorem call?_of_filledFrom {rest : List (Int × Instruction α)}
    (hqueue : m.program.filledFrom m.counter = (position, instruction) :: rest)
    (hpresent : none ∉ instruction.operands) :
    m.call? executors = some (callOf executors
        (m.handed position instruction instruction.operands.reduceOption) instruction) ∧
      m.program.filledFrom (position + 1) = rest := by
  rcases m.upcoming_cases with ⟨found, hup, hfirst⟩ | ⟨-, hempty⟩
  · rw [Program.filledFrom_of_firstFrom hfirst, List.cons.injEq, Prod.mk.injEq] at hqueue
    obtain ⟨⟨rfl, rfl⟩, hrest⟩ := hqueue
    obtain ⟨texts, htexts, hread⟩ := exists_presentOperands hpresent 0
    have hreduce : found.operands.reduceOption = texts :=
      calc found.operands.reduceOption
          = (texts.map some).filterMap id := congrArg List.reduceOption htexts
        _ = texts := by rw [List.filterMap_map]; exact List.filterMap_some
    refine ⟨?_, hrest⟩
    simp only [call?, hup, hread, hreduce]
    rfl
  · rw [Program.filledFrom_eq_nil hempty] at hqueue
    cases hqueue

theorem upcoming_of_filledFrom_nil (h : m.program.filledFrom m.counter = []) :
    m.upcoming = none := by
  rcases m.upcoming_cases with ⟨found, -, hfirst⟩ | ⟨hup, -⟩
  · rw [Program.filledFrom_of_firstFrom hfirst] at h
    cases h
  · exact hup

/-- Behind calls that go on, a course goes on with the calls that are left. -/
theorem course_of_front {front tail : List (Call α σ)}
    (hpresent : ∀ entry ∈ queue, none ∉ entry.2.operands)
    (hqueue : m.program.filledFrom m.counter = queue)
    (hcalls : m.callsInTurn executors queue = front ++ tail)
    (hfront : ∀ call ∈ front, call.Straight ∧ call.GoesOn) :
    let back := m.leftBehind front
    back.program.filledFrom back.counter = queue.drop front.length ∧
      back.callsInTurn executors (queue.drop front.length) = tail ∧
      ∀ calls ending last, Course executors back calls ending last →
        Course executors m (front ++ calls) ending last := by
  induction front generalizing m queue with
  | nil => exact ⟨hqueue, hcalls, fun _ _ _ h => h⟩
  | cons call front ih =>
    cases queue with
    | nil => cases hcalls
    | cons entry rest =>
      obtain ⟨position, instruction⟩ := entry
      obtain ⟨hfirst, hrest⟩ := List.forall_mem_cons.mp hpresent
      obtain ⟨⟨hstraight, answer, hanswer, hgoes⟩, hlater⟩ := List.forall_mem_cons.mp hfront
      obtain ⟨hcall, hbehind⟩ := call?_of_filledFrom executors hqueue hfirst
      obtain ⟨heq, hmore⟩ := List.cons.inj hcalls
      rw [heq] at hcall hmore
      -- The call has left the counter behind its position, so the rest of the queue is ahead.
      have hcounter : call.left.counter = position + 1 := by
        rw [hstraight.counter, ← heq, callOf_given]
        rfl
      have hslots : call.left.program.slots = m.program.slots := by
        rw [hstraight.slots, ← heq, callOf_given]
        rfl
      have hahead : call.left.program.filledFrom call.left.counter = rest := by
        rw [hcounter, Program.filledFrom_congr hslots, hbehind]
      obtain ⟨hqueue', hcalls', hcourse⟩ := ih hrest hahead hmore hlater
      rw [leftBehind_cons]
      refine ⟨hqueue', hcalls', fun calls ending last h => ?_⟩
      exact .goesOn hcall hanswer (Call.goesOn_iff.mpr hgoes) (hcourse calls ending last h)

/-- Where all calls go on, they are a course to the end of the program. -/
theorem course_of_goesOn (hpresent : ∀ entry ∈ queue, none ∉ entry.2.operands)
    (hqueue : m.program.filledFrom m.counter = queue)
    (hall : ∀ call ∈ m.callsInTurn executors queue, call.Straight ∧ call.GoesOn) :
    Course executors m (m.callsInTurn executors queue) .ranOff
      (m.leftBehind (m.callsInTurn executors queue)) := by
  obtain ⟨hahead, -, hcourse⟩ :=
    course_of_front hpresent hqueue (List.append_nil _).symm hall
  rw [length_callsInTurn, List.drop_length] at hahead
  have hends := hcourse [] .ranOff _ (.ranOff (upcoming_of_filledFrom_nil hahead))
  rwa [List.append_nil] at hends

/-- The calls up to the first that stops are a course. -/
theorem course_of_stops {front back : List (Call α σ)} {call : Call α σ}
    (hpresent : ∀ entry ∈ queue, none ∉ entry.2.operands)
    (hqueue : m.program.filledFrom m.counter = queue)
    (hcalls : m.callsInTurn executors queue = front ++ call :: back)
    (hfront : ∀ other ∈ front, other.Straight ∧ other.GoesOn) (hstops : call.Stops) :
    Course executors m (front ++ [call]) .told call.left := by
  obtain ⟨hahead, hleft, hcourse⟩ := course_of_front hpresent hqueue hcalls hfront
  cases hrest : queue.drop front.length with
  | nil => rw [hrest] at hleft; cases hleft
  | cons entry rest =>
    have hmem : entry ∈ queue := List.mem_of_mem_drop (hrest ▸ List.mem_cons_self)
    rw [hrest] at hahead hleft
    obtain ⟨hcall, -⟩ := call?_of_filledFrom executors hahead (hpresent entry hmem)
    rw [(List.cons.inj hleft).1] at hcall
    obtain ⟨answer, hanswer, hnull, hfalse⟩ := hstops
    refine hcourse [call] .told call.left (.told hcall hanswer ?_)
    rw [Bool.eq_false_iff, ne_eq, Call.goesOn_iff, hfalse]
    simp [hnull]

/-- An executor that has answered with a datum is there. -/
theorem isSome_executor {call : Call α σ} {answer : Datum}
    (hmem : call ∈ m.callsInTurn executors queue) (hanswer : call.answer = .ok answer) :
    call.instruction.executor.isSome = true := by
  induction queue generalizing m with
  | nil => cases hmem
  | cons entry rest ih =>
    rcases List.mem_cons.mp hmem with rfl | hmem
    · unfold callOf at hanswer
      split at hanswer
      · cases hanswer
      · rename_i executor hexecutor
        rw [callOf_instruction, hexecutor]
        rfl
    · exact ih hmem

/-- Behind the last instruction stands the counter. -/
theorem counter_leftBehind (hall : ∀ call ∈ m.callsInTurn executors queue, call.Straight)
    (hlast : queue.getLast? = some (position, instruction)) :
    (m.leftBehind (m.callsInTurn executors queue)).counter = position + 1 := by
  have hlength := length_callsInTurn executors m queue
  cases hcall : (m.callsInTurn executors queue).getLast? with
  | none =>
    rw [List.getLast?_eq_none_iff] at hcall
    rw [hcall] at hlength
    rw [List.length_eq_zero_iff.mp hlength.symm] at hlast
    cases hlast
  | some call =>
    have hindex := List.getLast?_eq_getElem?.symm.trans hcall
    obtain ⟨other, hother, hcounter⟩ := getElem?_callsInTurn hindex
    rw [hlength, ← List.getLast?_eq_getElem?, hlast] at hother
    obtain ⟨rfl, -⟩ := Prod.mk.inj (Option.some.inj hother)
    rw [leftBehind, hcall]
    exact (hall call (List.mem_of_getLast? hcall)).counter.trans hcounter

end Calls

/-! ## A record beside a course -/

section Record
variable {executors : Executors α σ} {m last : Machine α σ} {calls : List (Call α σ)}
  {ending : CourseEnd}

theorem callOf_withRecord (given : Machine α σ) (instruction : Instruction α)
    (record : List (Instruction α)) :
    callOf (noting executors) (given.withRecord record) instruction =
      (callOf executors given instruction).withRecord record := by
  unfold callOf Call.withRecord
  cases hexecutor : instruction.executor with
  | none => simp [hexecutor]
  | some executor => simp [hexecutor]; exact ⟨rfl, rfl⟩

/-- A call that is noted has the same answer. -/
theorem call?_withRecord (record : List (Instruction α)) :
    (m.withRecord record).call? (noting executors) =
      (m.call? executors).map (·.withRecord record) := by
  have hsame : (m.withRecord record).upcoming = m.upcoming := rfl
  unfold call?
  rw [hsame]
  cases m.upcoming with
  | none => rfl
  | some instruction =>
    dsimp only
    cases presentOperands 0 instruction.operands with
    | error index => rfl
    | ok texts =>
      let given := (m.entered instruction).report
        (.stepped instruction.lineNumber instruction.mnemonic texts)
      exact congrArg some (callOf_withRecord given instruction record)

/-- To note the calls changes nothing about a course. -/
theorem Course.withRecord (h : Course executors m calls ending last)
    (record : List (Instruction α)) :
    ∃ noted, noted.length = calls.length ∧
      Course (noting executors) (m.withRecord record) noted ending (last.withRecord
        (record ++ (calls.map Call.instruction).filter (·.executor.isSome))) := by
  have hnoted : ∀ {m : Machine α σ} {call : Call α σ} (record : List (Instruction α)),
      m.call? executors = some call →
      (m.withRecord record).call? (noting executors) = some (call.withRecord record) :=
    fun record hcall => by rw [call?_withRecord, hcall]; rfl
  induction h generalizing record with
  | ranOff hup =>
    refine ⟨[], rfl, ?_⟩
    rw [List.map_nil, List.filter_nil, List.append_nil]
    exact .ranOff hup
  | absent hup habsent =>
    refine ⟨[], rfl, ?_⟩
    rw [List.map_nil, List.filter_nil, List.append_nil]
    exact .absent hup habsent
  | told hcall hanswer hstop => exact ⟨[_], rfl, .told (hnoted record hcall) hanswer hstop⟩
  | failed hcall hanswer => exact ⟨[_], rfl, .failed (hnoted record hcall) hanswer⟩
  | @goesOn _ last call _ calls _ hcall hanswer hgoes _ ih =>
    obtain ⟨noted, hlength, hcourse⟩ :=
      ih (record ++ [call.instruction].filter (·.executor.isSome))
    refine ⟨call.withRecord record :: noted, by rw [List.length_cons, hlength]; rfl, ?_⟩
    rw [List.append_assoc, ← List.filter_append] at hcourse
    exact .goesOn (hnoted record hcall) hanswer hgoes hcourse

/-- A run that may make more steps than a course has calls ends as the course does. -/
theorem Course.run_eq (h : Course executors m calls ending last) {limit : Nat}
    (hlimit : calls.length < limit) :
    m.run executors limit = (ending.ofRun calls.length, last) := by
  have hends := (h.runFrom limit 0).resolve_right fun hshort => Nat.not_le.mpr hlimit hshort.2
  rwa [Nat.zero_add] at hends

/-- Such a run notes the calls of the course. -/
theorem Course.run_noting (h : Course executors m calls ending last) {limit : Nat}
    (hbound : ∀ call ∈ calls, call.instruction.executor.isSome = true)
    (hlimit : calls.length < limit) (record : List (Instruction α)) :
    (m.withRecord record).run (noting executors) limit =
      (ending.ofRun calls.length, last.withRecord (record ++ calls.map Call.instruction)) := by
  obtain ⟨noted, hlength, hcourse⟩ := h.withRecord record
  have hall : (calls.map Call.instruction).filter (·.executor.isSome) =
      calls.map Call.instruction := by
    refine List.filter_eq_self.mpr fun instruction hmem => ?_
    obtain ⟨call, hcall, rfl⟩ := List.mem_map.mp hmem
    exact hbound call hcall
  rw [hall] at hcourse
  rw [← hlength]
  exact hcourse.run_eq (hlength ▸ hlimit)

end Record

/-! ## Runs of straight-line programs -/

/-- A run makes the calls of the instructions from the counter on, in order and each once. Where
all of them go on and leave the counter alone, it ends behind the last instruction, or where it
started if there is none. Where the calls up to one do so and this one stops, the run ends with it.
The answer is the number of calls, and executors that note their calls have noted these. -/
theorem run_straight_line (executors : Executors α σ) {m : Machine α σ}
    (hoperands : ∀ instruction, some instruction ∈ m.program.slots →
      none ∉ instruction.operands) :
    let queue := m.program.filledFrom (max m.counter 1)
    let calls := m.callsInTurn executors queue
    (calls.map Call.instruction = queue.map Prod.snd ∧
      (m.counter = 1 → queue.length = m.program.instructionTotal)) ∧
    ((∀ call ∈ calls, call.Straight ∧ call.GoesOn) →
      let last := m.leftBehind calls
      (queue = [] → last.counter = m.counter) ∧
      (∀ position instruction, queue.getLast? = some (position, instruction) →
        last.counter = position + 1) ∧
      ∀ limit, queue.length < limit →
        m.run executors limit = (.finished queue.length, last) ∧
        ∀ record : List (Instruction α), (m.withRecord record).run (noting executors) limit =
          (.finished queue.length, last.withRecord (record ++ queue.map Prod.snd))) ∧
    ∀ (front : List (Call α σ)) (call : Call α σ) (back : List (Call α σ)),
      calls = front ++ call :: back →
      (∀ other ∈ front, other.Straight ∧ other.GoesOn) → call.Straight → call.Stops →
      (∃ position, queue[front.length]? = some (position, call.instruction) ∧
        call.left.counter = position + 1) ∧
      ∀ limit, front.length + 1 < limit →
        m.run executors limit = (.finished (front.length + 1), call.left) ∧
        ∀ record : List (Instruction α), (m.withRecord record).run (noting executors) limit =
          (.finished (front.length + 1), call.left.withRecord
            (record ++ (queue.take (front.length + 1)).map Prod.snd)) := by
  intro queue calls
  have hqueue : m.program.filledFrom m.counter = queue :=
    (m.program.filledFrom_max_one m.counter).symm
  have hpresent : ∀ entry ∈ queue, none ∉ entry.2.operands := by
    rintro ⟨position, instruction⟩ hmem
    obtain ⟨-, hslot⟩ := Program.get?_eq_some_iff.mp (Program.mem_filledFrom_iff.mp hmem).2
    exact hoperands instruction (List.mem_of_getElem? hslot)
  have hinstructions : calls.map Call.instruction = queue.map Prod.snd :=
    map_instruction_callsInTurn executors m queue
  have hlength : calls.length = queue.length := length_callsInTurn executors m queue
  refine ⟨⟨hinstructions, fun hcounter => ?_⟩, fun hall => ⟨fun hnil => ?_, ?_, ?_⟩,
    fun front call back hcalls hfront hstraight hstops => ⟨?_, ?_⟩⟩
  · rw [← Program.length_filled, ← Program.filledFrom_one, ← hcounter, hqueue]
  · have hcalls : calls = [] := List.length_eq_zero_iff.mp (hlength.trans (by rw [hnil]; rfl))
    rw [hcalls]
    rfl
  · exact fun position instruction hlast =>
      counter_leftBehind (fun call hmem => (hall call hmem).1) hlast
  · intro limit hlimit
    have hcourse := course_of_goesOn hpresent hqueue hall
    have hbound : ∀ call ∈ calls, call.instruction.executor.isSome = true := fun call hmem =>
      let ⟨_, _, hanswer, _⟩ := hall call hmem
      isSome_executor hmem hanswer
    rw [← hlength] at hlimit
    rw [← hlength, ← hinstructions]
    exact ⟨hcourse.run_eq hlimit, hcourse.run_noting hbound hlimit⟩
  · have hindex : calls[front.length]? = some call := by rw [hcalls]; simp
    obtain ⟨position, hposition, hcounter⟩ := getElem?_callsInTurn hindex
    exact ⟨position, hposition, hstraight.counter.trans hcounter⟩
  · intro limit hlimit
    have hcourse := course_of_stops hpresent hqueue hcalls hfront hstops
    have hsplit : calls = (front ++ [call]) ++ back := by rw [hcalls]; simp
    have hbound : ∀ other ∈ front ++ [call], other.instruction.executor.isSome = true := by
      intro other hmem
      have hcalled : other ∈ calls := hsplit ▸ List.mem_append_left back hmem
      rcases List.mem_append.mp hmem with hmem | hmem
      · obtain ⟨-, _, hanswer, -⟩ := hfront other hmem
        exact isSome_executor hcalled hanswer
      · obtain ⟨_, hanswer, -⟩ := List.mem_singleton.mp hmem ▸ hstops
        exact isSome_executor hcalled hanswer
    have htaken : (queue.take (front.length + 1)).map Prod.snd =
        (front ++ [call]).map Call.instruction := by
      rw [List.map_take, ← hinstructions, hsplit, List.map_append]
      exact List.take_left' (by simp)
    have hcount : (front ++ [call]).length = front.length + 1 := List.length_append
    rw [htaken, ← hcount]
    exact ⟨hcourse.run_eq (hcount ▸ hlimit), hcourse.run_noting hbound (hcount ▸ hlimit)⟩

/-- Two instructions with gaps around them. Executors that answer with null run through, and one
that answers with false on the first instruction ends the run there. -/
theorem sparse_program_runs_through :
    let first : Instruction Nat := ⟨2, "push 1", "push", [some "1"], some 1⟩
    let second : Instruction Nat := ⟨4, "nop", "nop", [], some 2⟩
    let m : Machine Nat Unit :=
      { program := { slots := [none, some first, none, some second, none], lineCount := 5 }
        host := () }
    let steady : Executors Nat Unit := fun _ _ m => (.ok .null, m)
    let refusing : Executors Nat Unit := fun _ _ m => (.ok (.bool false), m)
    (∀ instruction, some instruction ∈ m.program.slots → none ∉ instruction.operands) ∧
      (∀ limit, 2 < limit → ∃ last, m.run steady limit = (.finished 2, last) ∧
        last.counter = 5) ∧
      (∀ limit, 1 < limit → ∃ last, m.run refusing limit = (.finished 1, last) ∧
        last.counter = 3) := by
  intro first second m steady refusing
  have hoperands : ∀ instruction, some instruction ∈ m.program.slots →
      none ∉ instruction.operands := by
    intro instruction hmem
    have heither : instruction = first ∨ instruction = second := by simpa [m] using hmem
    rcases heither with rfl | rfl <;> simp [first, second]
  have hqueue : m.program.filledFrom (max m.counter 1) = [(2, first), (4, second)] := rfl
  have hsteady := run_straight_line steady hoperands
  have hrefusing := run_straight_line refusing hoperands
  simp only [hqueue] at hsteady hrefusing
  obtain ⟨-, hruns, -⟩ := hsteady
  obtain ⟨-, hcounter, hrun⟩ := hruns (List.forall_mem_cons.mpr ⟨⟨⟨rfl, rfl⟩, _, rfl, .inl rfl⟩,
    List.forall_mem_cons.mpr ⟨⟨⟨rfl, rfl⟩, _, rfl, .inl rfl⟩, List.forall_mem_nil _⟩⟩)
  obtain ⟨-, -, hstops⟩ := hrefusing
  obtain ⟨⟨position, hposition, hbehind⟩, hstop⟩ :=
    hstops [] _ _ rfl (List.forall_mem_nil _) ⟨rfl, rfl⟩ ⟨_, rfl, nofun, rfl⟩
  obtain ⟨rfl, -⟩ := Prod.mk.inj (Option.some.inj hposition)
  exact ⟨hoperands, fun limit hlimit => ⟨_, (hrun limit hlimit).1, hcounter 4 second rfl⟩,
    fun limit hlimit => ⟨_, (hstop limit hlimit).1, hbehind⟩⟩

end Machine
end AsmKit
