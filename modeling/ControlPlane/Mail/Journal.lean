/-
# The event journal of the mail gateway

The gateway writes each provider event as one line of a file before it passes the event
on, and reads the file back when it starts. The reader is strict: every line is a record,
and no event occurs twice. The writer is not prepared for failures: it does not hear that a
write fell short, what a write left behind stays in the file, and an event that could not be
synced is written again. So the file can be read back when no write falls short, and an append
that does not succeed has written nothing, or its line with the end of the process.
-/

import ControlPlane.Domain.Basic
import ControlPlane.Math.Transition

namespace ControlPlane.Mail

open Domain Math

def maxEventJournal : Nat := 64 * 1024 * 1024

/-- What the journal needs of the records and their serialisation: a record is one line of
text and is read back from it. Bytes that are no text are refused like other broken lines. -/
structure JournalFormat (ρ : Type) where
  schemaVersion : ρ → Nat
  eventId : ρ → Uuid
  encode : ρ → List UInt8
  decode : List UInt8 → Option ρ
  decode_encode : ∀ record, decode (encode record) = some record
  encode_ne_nil : ∀ record, encode record ≠ []
  one_line : ∀ record, ∀ byte ∈ encode record, byte ≠ 10 ∧ byte ≠ 13

/-- `str::lines`: a line ends with a line feed, and the last one may do without. -/
def lines : List UInt8 → List (List UInt8)
  | [] => []
  | byte :: rest =>
    if byte = 10 then [] :: lines rest
    else
      match lines rest with
      | [] => [[byte]]
      | line :: others => (byte :: line) :: others

/-- A carriage return at the end belongs to the line ending. -/
def stripReturn (line : List UInt8) : List UInt8 :=
  if line.getLast? = some 13 then line.dropLast else line

/-- What an append can come to: it succeeds; the write fails after the first bytes, which only
the background task that writes is told, and the append succeeds all the same; the append
fails with the first bytes written (at the latest when it syncs them); or the process ends
with the first bytes written. -/
inductive Cut
  | none
  | short (bytes : Nat)
  | failed (bytes : Nat)
  | crashed (bytes : Nat)
  deriving DecidableEq

/-- The file, the events the gateway has seen while it runs, and those it has confirmed. -/
structure EventJournal where
  file : List UInt8
  seen : Option (List Uuid)
  acknowledged : List Uuid
  deriving DecidableEq

inductive JournalStep (ρ : Type)
  | append (record : ρ) (cut : Cut)
  | restart

namespace EventJournal

variable {ρ : Type} (format : JournalFormat ρ)

def readLine (seen : List Uuid) (line : List UInt8) : Option (List Uuid) :=
  if stripReturn line = [] then none
  else
    match format.decode (stripReturn line) with
    | none => none
    | some record =>
      if format.schemaVersion record ≠ 1 ∨ format.eventId record ∈ seen then none
      else some (format.eventId record :: seen)

def load (file : List UInt8) : Option (List Uuid) :=
  if maxEventJournal < file.length then none else (lines file).foldlM (readLine format) []

def line (record : ρ) : List UInt8 := format.encode record ++ [10]

def append (s : EventJournal) (seen : List Uuid) (record : ρ) (cut : Cut) : EventJournal :=
  let id := format.eventId record
  if id ∈ seen then { s with acknowledged := id :: s.acknowledged }
  else if maxEventJournal < s.file.length + (line format record).length then s
  else
    match cut with
    | .none => ⟨s.file ++ line format record, some (id :: seen), id :: s.acknowledged⟩
    | .short bytes =>
      ⟨s.file ++ (line format record).take bytes, some (id :: seen), id :: s.acknowledged⟩
    | .failed bytes => { s with file := s.file ++ (line format record).take bytes }
    | .crashed bytes => { s with file := s.file ++ (line format record).take bytes, seen := none }

/-- Only a running gateway appends, and the records it makes have version one. -/
def step (s : EventJournal) : JournalStep ρ → Option EventJournal
  | .append record cut =>
    match s.seen with
    | none => none
    | some seen =>
      if format.schemaVersion record = 1 then some (append format s seen record cut) else none
  | .restart => some { s with seen := load format s.file }

/-- The gateway has started with an empty file. -/
def initial : EventJournal := ⟨[], some [], []⟩

/-- No write falls short, and an append that does not succeed writes nothing, or the process
ends with its line written. -/
def whole : JournalStep ρ → Prop
  | .append _ (.short _) => False
  | .append _ (.failed bytes) => bytes = 0
  | .append record (.crashed bytes) => bytes = 0 ∨ (line format record).length ≤ bytes
  | _ => True

/-! ## Reading back whole lines -/

variable {format}

theorem lines_append {front : List UInt8} (h : ∀ byte ∈ front, byte ≠ 10) (rest : List UInt8) :
    lines (front ++ 10 :: rest) = front :: lines rest := by
  induction front with
  | nil => rfl
  | cons byte front ih =>
    rw [List.forall_mem_cons] at h
    rw [List.cons_append, lines, if_neg h.1, ih h.2]

theorem lines_flatMap (records : List ρ) :
    lines (records.flatMap (line format)) = records.map format.encode := by
  induction records with
  | nil => rfl
  | cons record records ih =>
    rw [List.flatMap_cons, line, List.append_assoc, List.singleton_append,
      lines_append fun byte hbyte => (format.one_line record byte hbyte).1, ih, List.map_cons]

theorem readLine_encode {record : ρ} {seen : List Uuid} (hversion : format.schemaVersion record = 1)
    (hfresh : format.eventId record ∉ seen) :
    readLine format seen (format.encode record) = some (format.eventId record :: seen) := by
  have hstrip : stripReturn (format.encode record) = format.encode record := by
    refine if_neg fun hlast => ?_
    exact (format.one_line record 13 (List.mem_of_getLast? hlast)).2 rfl
  rw [readLine, hstrip, if_neg (format.encode_ne_nil record), format.decode_encode]
  simp [hversion, hfresh]

/-- Records of version one, all different and within the bound, are read back. -/
theorem foldlM_readLine {records : List ρ} (hversion : ∀ record ∈ records,
    format.schemaVersion record = 1) {seen : List Uuid}
    (hnodup : (records.map format.eventId ++ seen).Nodup) :
    (records.map format.encode).foldlM (readLine format) seen =
      some ((records.map format.eventId).reverse ++ seen) := by
  induction records generalizing seen with
  | nil => rfl
  | cons record records ih =>
    rw [List.forall_mem_cons] at hversion
    rw [List.map_cons, List.cons_append, List.nodup_cons] at hnodup
    have hfresh : format.eventId record ∉ seen := fun hmem =>
      hnodup.1 (List.mem_append_right _ hmem)
    rw [List.map_cons, List.foldlM_cons, readLine_encode hversion.1 hfresh]
    refine (ih hversion.2 (List.nodup_middle.mpr (List.nodup_cons.mpr hnodup))).trans ?_
    simp

/-! ## Every run of whole appends -/

/-- The file is a sequence of different records, those that were confirmed among them, and
a running gateway knows all of them. -/
structure Holds (format : JournalFormat ρ) (records : List ρ) (s : EventJournal) : Prop where
  file : s.file = records.flatMap (line format)
  version : ∀ record ∈ records, format.schemaVersion record = 1
  nodup : (records.map format.eventId).Nodup
  bound : s.file.length ≤ maxEventJournal
  acknowledged : ∀ id ∈ s.acknowledged, id ∈ records.map format.eventId
  known : ∀ seen, s.seen = some seen → ∀ id, id ∈ seen ↔ id ∈ records.map format.eventId

variable {records : List ρ} {record : ρ} {s t : EventJournal} {seen : List Uuid} {cut : Cut}

theorem Holds.load (h : Holds format records s) :
    load format s.file = some (records.map format.eventId).reverse := by
  have hread : (records.map format.encode).foldlM (readLine format) [] = _ :=
    foldlM_readLine h.version (by rw [List.append_nil]; exact h.nodup)
  rw [EventJournal.load, if_neg (Nat.not_lt.mpr h.bound), h.file, lines_flatMap, hread,
    List.append_nil]

section

variable (h : Holds format records s) (hseen : s.seen = some seen)
  (hversion : format.schemaVersion record = 1)

include h hseen hversion

/-- A line that was written in full is one more record. -/
theorem Holds.written (hfresh : format.eventId record ∉ seen)
    (hfits : s.file.length + (line format record).length ≤ maxEventJournal)
    (hfile : t.file = s.file ++ line format record)
    (hacknowledged : ∀ id ∈ t.acknowledged, id = format.eventId record ∨ id ∈ s.acknowledged)
    (hknown : ∀ known, t.seen = some known → known = format.eventId record :: seen) :
    Holds format (records ++ [record]) t where
  file := by rw [hfile, h.file, List.flatMap_append, List.flatMap_singleton]
  version := by simpa [or_imp, forall_and] using ⟨h.version, hversion⟩
  nodup := by
    rw [List.map_append, List.nodup_append_comm]
    exact List.nodup_cons.mpr ⟨fun hin => hfresh ((h.known seen hseen _).mpr hin), h.nodup⟩
  bound := by rwa [hfile, List.length_append]
  acknowledged id hid := by
    rw [List.map_append, List.mem_append]
    rcases hacknowledged id hid with rfl | hid
    · exact Or.inr (List.mem_singleton_self _)
    · exact Or.inl (h.acknowledged id hid)
  known known heq id := by
    rw [hknown known heq, List.mem_cons, h.known seen hseen, List.map_append, List.mem_append,
      or_comm, List.map_singleton, List.mem_singleton]

theorem Holds.append (hwhole : whole format (.append record cut)) :
    ∃ after, Holds format after (append format s seen record cut) := by
  unfold EventJournal.append
  dsimp only
  split
  · rename_i hmem
    exact ⟨records, { h with
      acknowledged := List.forall_mem_cons.mpr ⟨(h.known seen hseen _).mp hmem, h.acknowledged⟩ }⟩
  rename_i hfresh
  split
  · exact ⟨records, h⟩
  rename_i hfits
  have hroom := Nat.le_of_not_lt hfits
  cases cut with
  | none =>
    exact ⟨_, h.written hseen hversion hfresh hroom rfl (fun _ => List.mem_cons.mp)
      fun _ heq => (Option.some.inj heq).symm⟩
  | short bytes => exact hwhole.elim
  | failed bytes =>
    obtain rfl : bytes = 0 := hwhole
    exact ⟨records, by simpa using h⟩
  | crashed bytes =>
    dsimp only
    rcases hwhole with rfl | hall
    · rw [List.take_zero, List.append_nil]
      exact ⟨records, { h with known := nofun }⟩
    · rw [List.take_of_length_le hall]
      exact ⟨_, h.written hseen hversion hfresh hroom rfl (fun _ => Or.inr) nofun⟩

end

theorem Holds.step {event : JournalStep ρ} (h : Holds format records s)
    (hwhole : whole format event) (hstep : step format s event = some t) :
    ∃ after, Holds format after t := by
  cases event with
  | append record cut =>
    simp only [EventJournal.step] at hstep
    cases hseen : s.seen with
    | none =>
      rw [hseen] at hstep
      cases hstep
    | some seen =>
      simp only [hseen, Option.ite_none_right_eq_some, Option.some.injEq] at hstep
      obtain ⟨hversion, rfl⟩ := hstep
      exact h.append hseen hversion hwhole
  | restart =>
    cases hstep
    refine ⟨records, { h with known := fun seen hseen id => ?_ }⟩
    rw [← Option.some.inj (h.load.symm.trans hseen), List.mem_reverse]

/-- Two events in a format of one letter each. -/
def letters : JournalFormat Bool where
  schemaVersion _ := 1
  eventId record := if record then 1 else 2
  encode record := [if record then 65 else 66]
  decode
    | [65] => some true
    | [66] => some false
    | _ => none
  decode_encode := by decide
  encode_ne_nil := by decide
  one_line record byte hbyte := by
    obtain rfl := List.mem_singleton.mp hbyte
    cases record <;> decide

/-- An event whose write failed at once is confirmed and lost, a write that stopped before the
line feed spoils the next record, and an event that could not be synced is written twice. -/
theorem journal_of_failed_append :
    (∃ t, replay (step letters) initial [.append true (.short 0), .restart] = some t ∧
      1 ∈ t.acknowledged ∧ load letters t.file = some []) ∧
    (∃ t, replay (step letters) initial [.append true (.short 1), .append false .none] = some t ∧
      t.acknowledged = [2, 1] ∧ load letters t.file = none) ∧
    ∃ t, replay (step letters) initial [.append true (.failed 2), .append true .none] = some t ∧
      1 ∈ t.acknowledged ∧ load letters t.file = none :=
  ⟨⟨_, rfl, by decide, by decide⟩, ⟨_, rfl, by decide, by decide⟩, ⟨_, rfl, by decide, by decide⟩⟩

/-- Without a short write or a torn line the journal is read back: it holds every confirmed
event, and none twice. -/
theorem journal_read_back {events : List (JournalStep ρ)}
    (hrun : RunWhere (step format) (fun _ event => whole format event) initial events t) :
    t.file.length ≤ maxEventJournal ∧ ∃ records : List ρ,
      t.file = records.flatMap (line format) ∧ (records.map format.eventId).Nodup ∧
      ∃ seen, load format t.file = some seen ∧ ∀ id ∈ t.acknowledged, id ∈ seen := by
  have hstart : ∃ records, Holds format records initial :=
    ⟨[], rfl, nofun, .nil, Nat.zero_le _, nofun, fun _ heq _ => by cases heq; rfl⟩
  have hend : ∃ records, Holds format records t :=
    hrun.invariant (P := fun s => ∃ records, Holds format records s)
      (fun _ _ _ ⟨_, h⟩ hgood hstep => h.step hgood hstep) hstart
  obtain ⟨records, h⟩ := hend
  refine ⟨h.bound, records, h.file, h.nodup, _, h.load, fun id hid => ?_⟩
  exact List.mem_reverse.mpr (h.acknowledged id hid)

theorem journal_read_back_of_crash : ∃ t, replay (step letters) initial
        [.append true (.crashed 2), .restart, .append false .none] = some t ∧
      ∃ seen, load letters t.file = some seen ∧ ∀ id ∈ t.acknowledged, id ∈ seen := by
  have hrun : RunWhere (step letters) (fun _ event => whole letters event) initial
      [.append true (.crashed 2), .restart, .append false .none] _ :=
    .cons (Or.inr (by decide)) rfl (.cons trivial rfl (.cons trivial rfl (.nil _)))
  obtain ⟨-, _, -, -, hload⟩ := journal_read_back hrun
  exact ⟨_, rfl, hload⟩

end EventJournal

end ControlPlane.Mail
