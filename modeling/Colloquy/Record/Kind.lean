import Colloquy.Json.Printer
import Colloquy.Json.Reader
import Colloquy.Paging.Format

/-!
# Kinds of records

A `RecordKind` is one of the records that have a JSON form of their own. It fixes the records
themselves (`RecordKind.Record`), how they are written and read, and what of them is not fixed by
their fields: the free objects that they hold, the numbers that must fit their width, and the times
that must have a written form of their own.
-/

namespace Colloquy

open Json (Document Reader)

/-- The kinds of records. -/
inductive RecordKind where
  | space
  | session
  | message
  | task
  | disk
  | asset
  | part
  | learningStatus
  | messageInserted
  | sendMessage
  | pageRequest
  | pagingLimits
  | diskPage
  deriving DecidableEq, Repr

namespace Part

/-- The free objects of a part. -/
def objects (p : Part) : List JsonObject := p.metadata.toList

/-- Whether the size of the asset has 64 bits. -/
def InRange (p : Part) : Prop := ∀ a ∈ p.asset, a.sizeB < Nat.pow 2 64

end Part

namespace RecordKind

/-- The records of a kind. -/
def Record : RecordKind → Type
  | .space => Space
  | .session => Session
  | .message => Message
  | .task => Task
  | .disk => Disk
  | .asset => Asset
  | .part => Part
  | .learningStatus => LearningStatus
  | .messageInserted => MessageInserted
  | .sendMessage => SendMessage
  | .pageRequest => PageRequest
  | .pagingLimits => PagingLimits
  | .diskPage => Page Disk

/-- Writes a record. -/
def write : (kind : RecordKind) → kind.Record → Document
  | .space => Space.toDocument
  | .session => Session.toDocument
  | .message => Message.toDocument
  | .task => Task.toDocument
  | .disk => Disk.toDocument
  | .asset => Asset.toDocument
  | .part => Part.toDocument
  | .learningStatus => LearningStatus.toDocument
  | .messageInserted => MessageInserted.toDocument
  | .sendMessage => SendMessage.toDocument
  | .pageRequest => PageRequest.toDocument
  | .pagingLimits => PagingLimits.toDocument
  | .diskPage => Page.toDocument Disk.toDocument

/-- Reads a record. -/
def read : (kind : RecordKind) → Reader kind.Record
  | .space => Space.read
  | .session => Session.read
  | .message => Message.read
  | .task => Task.read
  | .disk => Disk.read
  | .asset => Asset.read
  | .part => Part.read
  | .learningStatus => LearningStatus.read
  | .messageInserted => MessageInserted.read
  | .sendMessage => SendMessage.read
  | .pageRequest => PageRequest.read
  | .pagingLimits => PagingLimits.read
  | .diskPage => Page.read Disk.read

/-- Reads a record from a text. -/
def parse (kind : RecordKind) (s : String) : Option kind.Record :=
  (Document.ofString? s).bind (kind.read Json.maxLevels)

/-- The text of a record on one line. -/
def text (kind : RecordKind) (v : kind.Record) : String := (kind.write v).compact

/-- The text of a record over several lines. -/
def lines (kind : RecordKind) (v : kind.Record) : String := (kind.write v).pretty

/-- The free objects of a record. -/
def objects : (kind : RecordKind) → kind.Record → List JsonObject
  | .space, (s : Space) => [s.configs]
  | .session, (s : Session) => [s.configs]
  | .message, (m : Message) => m.metadata :: m.parts.flatMap Part.objects
  | .task, (t : Task) => [t.data]
  | .part, (p : Part) => p.objects
  | .sendMessage, (m : SendMessage) => m.metadata :: m.parts.flatMap Part.objects
  | .disk, _ | .asset, _ | .learningStatus, _ | .messageInserted, _ | .pageRequest, _
  | .pagingLimits, _ | .diskPage, _ => []

/-- Whether the numbers of a record fit the width of their fields. -/
def InRange : (kind : RecordKind) → kind.Record → Prop
  | .message, (m : Message) => ∀ p ∈ m.parts, p.InRange
  | .task, (t : Task) => Decimal.InInt64 t.order
  | .asset, (a : Asset) => a.sizeB < Nat.pow 2 64
  | .part, (p : Part) => p.InRange
  | .learningStatus, (s : LearningStatus) =>
    s.digested < Nat.pow 2 64 ∧ s.notDigested < Nat.pow 2 64
  | .sendMessage, (m : SendMessage) => ∀ p ∈ m.parts, p.InRange
  | .pageRequest, (r : PageRequest) => ∀ n ∈ r.limit, n < Nat.pow 2 32
  | .pagingLimits, (l : PagingLimits) =>
    l.defaultLimit < Nat.pow 2 32 ∧ l.maxLimit < Nat.pow 2 32
  | .space, _ | .session, _ | .disk, _ | .messageInserted, _ | .diskPage, _ => True

/-- The times of a record. -/
def times : (kind : RecordKind) → kind.Record → List Instant
  | .space, (s : Space) => [s.createdAt, s.updatedAt]
  | .session, (s : Session) => [s.createdAt, s.updatedAt]
  | .message, (m : Message) => [m.createdAt, m.updatedAt]
  | .task, (t : Task) => [t.createdAt, t.updatedAt]
  | .disk, (d : Disk) => [d.createdAt, d.updatedAt]
  | .diskPage, (p : Page Disk) => p.items.flatMap fun d => [d.createdAt, d.updatedAt]
  | .asset, _ | .part, _ | .learningStatus, _ | .messageInserted, _ | .sendMessage, _
  | .pageRequest, _ | .pagingLimits, _ => []

/-- The record that the text of a record names: it has the times that are written. -/
def asWritten : (kind : RecordKind) → kind.Record → kind.Record
  | .space, (s : Space) => s.mapTimes Instant.asWritten
  | .session, (s : Session) => s.mapTimes Instant.asWritten
  | .message, (m : Message) => m.mapTimes Instant.asWritten
  | .task, (t : Task) => t.mapTimes Instant.asWritten
  | .disk, (d : Disk) => d.mapTimes Instant.asWritten
  | .diskPage, (p : Page Disk) => { p with items := p.items.map (Disk.mapTimes Instant.asWritten) }
  | .asset, v | .part, v | .learningStatus, v | .messageInserted, v | .sendMessage, v
  | .pageRequest, v | .pagingLimits, v => v

end RecordKind

end Colloquy
