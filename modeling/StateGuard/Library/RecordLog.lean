import Mathlib.Data.List.Infix
import Mathlib.Data.List.TakeWhile
import Mathlib.Data.List.ReduceOption
import StateGuard.Library.Lines

/-!
# Logs of records

A log is a file with one record on each line.  A writer thread takes the records from a queue and
appends their lines, and may stop in the midst of one.

* What is read back of a log that is torn anywhere are first records of it (`readBack_torn`), and
  of a whole log all of them (`readBack_log`).
* The file of a channel is at every moment the beginning of the log of the records that its thread
  has taken (`Channel.Sound`), whatever the thread does next (`Channel.Sound.step`).
-/

universe u v

namespace TextLines.Terminators

variable {α : Type u} (t : Terminators α)

/-- The lines of a text, without what ends them. -/
def contents (text : List α) : List (List α) :=
  (t.linesOf text).map fun line => line.takeWhile fun c => !t.ends c

@[simp]
theorem contents_nil : t.contents [] = [] := rfl

variable {t} {plain : List α}

theorem takeWhile_plain (goes : ∀ c ∈ plain, t.ends c = false) (rest : List α) :
    (plain ++ rest).takeWhile (fun c => !t.ends c) =
      plain ++ rest.takeWhile fun c => !t.ends c :=
  List.takeWhile_append_of_pos fun c listed => by rw [goes c listed, Bool.not_false]

/-- A text without an end of a line is one line. -/
theorem contents_plain (goes : ∀ c ∈ plain, t.ends c = false) (nonempty : plain ≠ []) :
    t.contents plain = [plain] := by
  have lines := linesOf_append_plain goes nonempty []
  rw [List.append_nil] at lines
  rw [contents, lines]
  have whole := takeWhile_plain goes []
  rw [List.append_nil, List.takeWhile_nil, List.append_nil] at whole
  simp [linesOf, prepend, whole]

/-- A line that is ended comes before the lines of the rest. -/
theorem contents_append {newline : α} (goes : ∀ c ∈ plain, t.ends c = false)
    (nonempty : plain ≠ []) (ends : t.ends newline = true)
    (returns : t.returns newline = false) (rest : List α) :
    t.contents (plain ++ newline :: rest) = plain :: t.contents rest := by
  have ended : t.endsBefore newline rest = true := by simp [endsBefore, ends, returns]
  have stops : List.takeWhile (fun c => !t.ends c) [newline] = [] := by simp [ends]
  rw [contents, linesOf_append_plain goes nonempty, linesOf, if_pos ended, prepend, List.map_cons,
    takeWhile_plain goes, stops, List.append_nil]
  rfl

end TextLines.Terminators

namespace RecordLog

open TextLines

variable {α : Type u} {ρ : Type v}

/-! ## Records on lines -/

/-- How records are written and read, and what ends a line. -/
structure Format (α : Type u) (ρ : Type v) where
  terminators : Terminators α
  write : ρ → List α
  read : List α → Option ρ
  newline : α
  ends_newline : terminators.ends newline = true
  returns_newline : terminators.returns newline = false

/-- A record is read back from its line, and from no part of it. -/
structure Format.Faithful (f : Format α ρ) (record : ρ) : Prop where
  read_write : f.read (f.write record) = some record
  plain : ∀ c ∈ f.write record, f.terminators.ends c = false
  nonempty : f.write record ≠ []
  torn : ∀ part, part <+: f.write record → part ≠ f.write record → f.read part = none

namespace Format

variable (f : Format α ρ)

def line (record : ρ) : List α := f.write record ++ [f.newline]

/-- The text of a log. -/
def log (records : List ρ) : List α := records.flatMap f.line

/-- The records of lines up to the first that holds none, and whether every line holds one. -/
def readLines : List (List α) → List ρ × Bool
  | [] => ([], true)
  | text :: rest =>
    match f.read text with
    | none => ([], false)
    | some record => (record :: (readLines rest).1, (readLines rest).2)

/-- The records that are read from a text. -/
def readBack (text : List α) : List ρ × Bool := f.readLines (f.terminators.contents text)

variable {f}

@[simp]
theorem log_nil : f.log [] = [] := rfl

theorem log_cons (record : ρ) (rest : List ρ) :
    f.log (record :: rest) = f.line record ++ f.log rest := List.flatMap_cons

theorem log_concat (records : List ρ) (record : ρ) :
    f.log (records ++ [record]) = f.log records ++ f.line record := by
  rw [log, List.flatMap_append, List.flatMap_singleton]
  rfl

theorem log_append (records others : List ρ) :
    f.log (records ++ others) = f.log records ++ f.log others := List.flatMap_append

/-- A line of a record is read, and then the rest. -/
theorem readBack_line {record : ρ} (faithful : f.Faithful record) (rest : List α) :
    f.readBack (f.line record ++ rest) =
      (record :: (f.readBack rest).1, (f.readBack rest).2) := by
  have lines : f.terminators.contents (f.line record ++ rest) =
      f.write record :: f.terminators.contents rest := by
    rw [line, List.append_assoc]
    exact Terminators.contents_append faithful.plain faithful.nonempty f.ends_newline
      f.returns_newline rest
  rw [readBack, lines, readLines, faithful.read_write]
  rfl

/-- A whole log is read back. -/
theorem readBack_log {records : List ρ} (faithful : ∀ record ∈ records, f.Faithful record) :
    f.readBack (f.log records) = (records, true) := by
  induction records with
  | nil => rfl
  | cons record rest ih =>
    obtain ⟨first, later⟩ := List.forall_mem_cons.mp faithful
    rw [log_cons, readBack_line first, ih later]

/-- The last line of a torn log is not read, unless only its end is missing. -/
theorem readBack_part {record : ρ} (faithful : f.Faithful record) {part : List α}
    (within : part <+: f.write record) : (f.readBack part).1 <+: [record] := by
  by_cases nothing : part = []
  · subst nothing
    exact List.nil_prefix
  · have goes : ∀ c ∈ part, f.terminators.ends c = false :=
      fun c listed => faithful.plain c (within.subset listed)
    rw [readBack, Terminators.contents_plain goes nothing, readLines]
    by_cases whole : part = f.write record
    · rw [whole, faithful.read_write]
      exact List.prefix_rfl
    · rw [faithful.torn part within whole]
      exact List.nil_prefix

/-- What is read back of a torn log are first records of it. -/
theorem readBack_torn {records : List ρ} (faithful : ∀ record ∈ records, f.Faithful record)
    {part : List α} (torn : part <+: f.log records) : (f.readBack part).1 <+: records := by
  induction records generalizing part with
  | nil =>
    rw [List.prefix_nil.mp torn]
    exact List.prefix_rfl
  | cons record rest ih =>
    obtain ⟨first, later⟩ := List.forall_mem_cons.mp faithful
    rw [log_cons] at torn
    rcases List.prefix_or_prefix_of_prefix torn (List.prefix_append _ _) with short | long
    · rw [line, List.prefix_concat_iff] at short
      rcases short with ended | short
      · have whole := readBack_line first []
        rw [List.append_nil] at whole
        rw [show part = f.line record from ended, whole]
        exact List.cons_prefix_cons.mpr ⟨rfl, List.nil_prefix⟩
      · exact (readBack_part first short).trans (List.cons_prefix_cons.mpr ⟨rfl, List.nil_prefix⟩)
    · obtain ⟨others, rfl⟩ := long
      rw [readBack_line first]
      exact List.cons_prefix_cons.mpr ⟨rfl, ih later ((List.prefix_append_right_inj _).mp torn)⟩

end Format

/-! ## A writer behind a queue -/

/-- Where the thread of a writer is. -/
inductive Thread (α : Type u) where
  | opening
  | waiting
  /-- A part of a line is still to be written. -/
  | writing (rest : List α)
  | ended
  deriving DecidableEq

/-- A queue, the thread that empties it, and the file that the thread writes. -/
structure Channel (α : Type u) (ρ : Type v) where
  /-- The queue.  The thread ends at `none`. -/
  items : List (Option ρ) := []
  thread : Thread α := .opening
  failed : Bool := false
  file : Option (List α) := none
  /-- The records that the thread has taken, of which it keeps none. -/
  taken : List ρ := []

/-- What the thread does next, or what happens to it. -/
inductive ThreadEvent where
  | opens
  /-- The file cannot be opened, or cannot be made private. -/
  | refused (created : Bool)
  | takes
  /-- Some characters of a line reach the file. -/
  | puts (count : Nat)
  | flushes
  /-- Writing raises. -/
  | breaks

namespace Channel

/-- Put a record in the queue, unless it is full. -/
def submit (capacity : Nat) (record : ρ) (c : Channel α ρ) : Option (Channel α ρ) :=
  if capacity ≤ c.items.length then none else some { c with items := c.items ++ [some record] }

/-- Ask the thread to end, unless the queue is full. -/
def finish (capacity : Nat) (c : Channel α ρ) : Option (Channel α ρ) :=
  if capacity ≤ c.items.length then none else some { c with items := c.items ++ [none] }

/-- The records that have been put in the queue. -/
def submitted (c : Channel α ρ) : List ρ := c.taken ++ c.items.reduceOption

variable (f : Format α ρ)

def step (c : Channel α ρ) (event : ThreadEvent) : Option (Channel α ρ) :=
  match event, c.thread with
  | .opens, .opening => some { c with thread := .waiting, file := some [] }
  | .refused created, .opening => some
      { c with
        thread := .ended
        failed := true
        file := if created then some [] else c.file }
  | .takes, .waiting =>
    match c.items with
    | [] => none
    | none :: rest => some { c with thread := .ended, items := rest }
    | some record :: rest => some
        { c with
          thread := .writing (f.line record)
          items := rest
          taken := c.taken ++ [record] }
  | .puts count, .writing rest => some
      { c with
        thread := .writing (rest.drop count)
        file := c.file.map (· ++ rest.take count) }
  | .flushes, .writing [] => some { c with thread := .waiting }
  | .breaks, .writing _ => some { c with thread := .ended, failed := true }
  | _, _ => none

/-- The file is the beginning of the log of the records that were taken, and lacks only what the
thread still has to write. -/
def Sound (c : Channel α ρ) : Prop :=
  match c.thread with
  | .opening => c.file = none ∧ c.taken = []
  | .waiting => c.file = some (f.log c.taken)
  | .writing rest => ∃ text, c.file = some text ∧ text ++ rest = f.log c.taken
  | .ended =>
    (∀ text ∈ c.file, text <+: f.log c.taken) ∧ (c.failed = false → c.file = some (f.log c.taken))

variable {f} {c after : Channel α ρ}

theorem sound_initial : Sound f ({} : Channel α ρ) := ⟨rfl, rfl⟩

theorem submitted_submit {capacity : Nat} {record : ρ}
    (put : c.submit capacity record = some after) : after.submitted = c.submitted ++ [record] := by
  rw [submit] at put
  split at put
  next => cases put
  next =>
    cases put
    simp [submitted, List.reduceOption_append]

theorem submitted_finish {capacity : Nat} (put : c.finish capacity = some after) :
    after.submitted = c.submitted := by
  rw [finish] at put
  split at put
  next => cases put
  next =>
    cases put
    simp [submitted, List.reduceOption_append]

theorem Sound.submit (sound : Sound f c) {capacity : Nat} {record : ρ}
    (put : c.submit capacity record = some after) : Sound f after := by
  rw [Channel.submit] at put
  split at put
  next => cases put
  next =>
    cases put
    exact sound

theorem Sound.finish (sound : Sound f c) {capacity : Nat}
    (put : c.finish capacity = some after) : Sound f after := by
  rw [Channel.finish] at put
  split at put
  next => cases put
  next =>
    cases put
    exact sound

/-- A writer that did not end in time may be called failed at any moment. -/
theorem Sound.fail (sound : Sound f c) : Sound f { c with failed := true } := by
  rw [Sound] at sound ⊢
  cases thread : c.thread with
  | ended =>
    rw [thread] at sound
    exact ⟨sound.1, fun unfailed => by cases unfailed⟩
  | _ =>
    rw [thread] at sound
    exact sound

/-- The thread neither loses a record nor takes one twice. -/
theorem submitted_step {event : ThreadEvent} (steps : c.step f event = some after) :
    after.submitted = c.submitted := by
  rw [step.eq_def] at steps
  split at steps
  next => cases steps; rfl
  next => cases steps; rfl
  next =>
    split at steps
    next => cases steps
    next items =>
      cases steps
      rw [submitted, submitted, items, List.reduceOption_cons_of_none]
    next items =>
      cases steps
      rw [submitted, submitted, items, List.reduceOption_cons_of_some]
      simp
  next => cases steps; rfl
  next => cases steps; rfl
  next => cases steps; rfl
  next => cases steps

/-- The thread ends when it has failed, or is asked to. -/
theorem ended_step {event : ThreadEvent} (steps : c.step f event = some after)
    (ended : after.thread = .ended) : after.failed = true ∨ none ∈ c.items := by
  rw [step.eq_def] at steps
  split at steps
  next => cases steps; cases ended
  next => cases steps; exact .inl rfl
  next =>
    split at steps
    next => cases steps
    next items =>
      rw [items]
      exact .inr List.mem_cons_self
    next => cases steps; cases ended
  next => cases steps; cases ended
  next => cases steps; cases ended
  next => cases steps; exact .inl rfl
  next => cases steps

/-- A failure stays. -/
theorem failed_step {event : ThreadEvent} (steps : c.step f event = some after)
    (failed : c.failed = true) : after.failed = true := by
  rw [step.eq_def] at steps
  split at steps
  next => cases steps; exact failed
  next => cases steps; rfl
  next =>
    split at steps
    next => cases steps
    next => cases steps; exact failed
    next => cases steps; exact failed
  next => cases steps; exact failed
  next => cases steps; exact failed
  next => cases steps; rfl
  next => cases steps

/-- The thread only takes from the queue. -/
theorem items_step {event : ThreadEvent} (steps : c.step f event = some after) :
    after.items <:+ c.items := by
  rw [step.eq_def] at steps
  split at steps
  next => cases steps; exact List.suffix_rfl
  next => cases steps; exact List.suffix_rfl
  next =>
    split at steps
    next => cases steps
    next items =>
      cases steps
      exact items ▸ List.suffix_cons _ _
    next items =>
      cases steps
      exact items ▸ List.suffix_cons _ _
  next => cases steps; exact List.suffix_rfl
  next => cases steps; exact List.suffix_rfl
  next => cases steps; exact List.suffix_rfl
  next => cases steps

theorem Sound.step (sound : Sound f c) {event : ThreadEvent} (steps : c.step f event = some after) :
    Sound f after := by
  rw [Channel.step.eq_def] at steps
  split at steps
  next opening =>
    cases steps
    rw [Sound, opening] at sound
    change some [] = some (f.log c.taken)
    rw [sound.2, Format.log_nil]
  next created opening =>
    cases steps
    rw [Sound, opening] at sound
    refine ⟨fun text isFile => ?_, fun unfailed => by cases unfailed⟩
    change text ∈ (if created = true then some [] else c.file) at isFile
    rw [sound.1] at isFile
    split at isFile
    next =>
      cases isFile
      exact List.nil_prefix
    next => cases isFile
  next waiting =>
    rw [Sound, waiting] at sound
    split at steps
    next => cases steps
    next =>
      cases steps
      refine ⟨fun text isFile => ?_, fun _ => sound⟩
      cases sound.symm.trans isFile
      exact List.prefix_rfl
    next record rest items =>
      cases steps
      exact ⟨f.log c.taken, sound, (Format.log_concat _ _).symm⟩
  next count rest writing =>
    cases steps
    rw [Sound, writing] at sound
    obtain ⟨text, isFile, whole⟩ := sound
    refine ⟨text ++ rest.take count, ?_, ?_⟩
    · change c.file.map (· ++ rest.take count) = _
      rw [isFile]
      rfl
    · rw [List.append_assoc, List.take_append_drop, whole]
  next writing =>
    cases steps
    rw [Sound, writing] at sound
    obtain ⟨text, isFile, whole⟩ := sound
    rw [List.append_nil] at whole
    change c.file = some (f.log c.taken)
    rw [← whole, isFile]
  next rest writing =>
    cases steps
    rw [Sound, writing] at sound
    obtain ⟨text, isFile, whole⟩ := sound
    refine ⟨fun other isOther => ?_, fun unfailed => by cases unfailed⟩
    cases isFile.symm.trans isOther
    exact ⟨rest, whole⟩
  next => cases steps

/-- The file is the beginning of the log of what was submitted. -/
theorem Sound.torn (sound : Sound f c) {text : List α} (isFile : c.file = some text) :
    text <+: f.log c.submitted := by
  rw [submitted, Format.log_append]
  refine List.IsPrefix.trans ?_ (List.prefix_append _ _)
  rw [Sound] at sound
  split at sound
  next =>
    cases sound.1.symm.trans isFile
  next =>
    cases sound.symm.trans isFile
    exact List.prefix_rfl
  next rest _ =>
    obtain ⟨other, isOther, whole⟩ := sound
    cases isOther.symm.trans isFile
    exact ⟨rest, whole⟩
  next => exact sound.1 text isFile

/-- What is read back at any moment are first records of those that were submitted. -/
theorem Sound.readBack (sound : Sound f c) (faithful : ∀ record ∈ c.submitted, f.Faithful record)
    {text : List α} (isFile : c.file = some text) : (f.readBack text).1 <+: c.submitted :=
  Format.readBack_torn faithful (sound.torn isFile)

/-! ### Undisturbed threads -/

/-- The thread can go on so. -/
def Leads (f : Format α ρ) (c after : Channel α ρ) : Prop :=
  ∃ events : List ThreadEvent, events.foldlM (Channel.step f) c = some after

theorem Leads.refl : Leads f c c := ⟨[], rfl⟩

theorem Leads.trans {later : Channel α ρ} (first : Leads f c after)
    (second : Leads f after later) : Leads f c later := by
  obtain ⟨events, runs⟩ := first
  obtain ⟨others, goesOn⟩ := second
  refine ⟨events ++ others, ?_⟩
  rw [List.foldlM_append]
  exact Option.bind_eq_some_iff.mpr ⟨after, runs, goesOn⟩

theorem Leads.single {event : ThreadEvent} (steps : c.step f event = some after) :
    Leads f c after := by
  refine ⟨[event], ?_⟩
  rw [List.foldlM_cons, steps]
  rfl

/-- A thread that writes comes to wait for the next record. -/
theorem leads_waiting (unended : c.thread ≠ .ended) :
    ∃ after, Leads f c after ∧ after.thread = .waiting ∧ after.items = c.items ∧
      after.failed = c.failed := by
  cases thread : c.thread with
  | ended => exact absurd thread unended
  | waiting => exact ⟨c, .refl, thread, rfl, rfl⟩
  | opening =>
    have opens : c.step f .opens = some { c with thread := .waiting, file := some [] } := by
      rw [step.eq_def, thread]
    exact ⟨_, .single opens, rfl, rfl, rfl⟩
  | writing rest =>
    have puts : c.step f (.puts rest.length) = some
        { c with thread := .writing [], file := c.file.map (· ++ rest) } := by
      rw [step.eq_def, thread]
      simp
    have flushes : Channel.step f { c with thread := .writing [], file := c.file.map (· ++ rest) }
        .flushes = some { c with thread := .waiting, file := c.file.map (· ++ rest) } := rfl
    exact ⟨_, (Leads.single puts).trans (.single flushes), rfl, rfl, rfl⟩

/-- A thread that has been asked to end writes what is in the queue, and ends. -/
theorem leads_ended {records : List ρ} (unended : c.thread ≠ .ended)
    (items : c.items = records.map some ++ [none]) :
    ∃ after, Leads f c after ∧ after.thread = .ended ∧ after.items = [] ∧
      after.failed = c.failed := by
  induction records generalizing c with
  | nil =>
    obtain ⟨waits, leads, waiting, sameItems, failed⟩ := leads_waiting (f := f) unended
    have ends : waits.step f .takes = some { waits with thread := .ended, items := [] } := by
      rw [step.eq_def, waiting, sameItems, items]
      rfl
    exact ⟨_, leads.trans (.single ends), rfl, rfl, failed⟩
  | cons record rest ih =>
    obtain ⟨waits, leads, waiting, sameItems, failed⟩ := leads_waiting (f := f) unended
    have takes : waits.step f .takes = some
        { waits with
          thread := .writing (f.line record)
          items := rest.map some ++ [none]
          taken := waits.taken ++ [record] } := by
      rw [step.eq_def, waiting, sameItems, items]
      rfl
    obtain ⟨after, goesOn, ended, empty, same⟩ := ih (c := { waits with
      thread := .writing (f.line record)
      items := rest.map some ++ [none]
      taken := waits.taken ++ [record] }) nofun rfl
    exact ⟨after, leads.trans ((Leads.single takes).trans goesOn), ended, empty,
      same.trans failed⟩

end Channel

end RecordLog
