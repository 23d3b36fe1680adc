import Colloquy.Proofs.Json.Layout
import Colloquy.Proofs.Record.Format

/-!
# Every record comes back from its text

A record as its type allows it (`RecordKind.Legal`) that holds no doubles is read back from its
text, on one line or on several, exactly if the text nests no deeper than texts are read. It comes
back with the times that are written (`RecordKind.asWritten`), and these are its own exactly if none
of them lies within a leap second that does not end a minute. What is read from any text is such a
record, doubles apart. So from the first reading on, writing and reading change nothing
(`RecordKind.round_trips`).
-/

namespace Colloquy

open Json (Document Reader)

namespace RecordKind

/-- A record as its type allows it: its free objects are such as reading gives them, and its numbers
fit the width of their fields. -/
structure Legal (kind : RecordKind) (v : kind.Record) : Prop where
  objects : ∀ fields ∈ kind.objects v, Json.Legal (.object fields)
  inRange : kind.InRange v

/-- A record of which no free object holds a double. -/
def FloatFree (kind : RecordKind) (v : kind.Record) : Prop :=
  ∀ fields ∈ kind.objects v, Json.FieldsFloatFree fields

end RecordKind

/-! ### Free objects and parts -/

/-- A free object that is legal, has no floating-point number and does not nest too deeply is plain.
-/
lemma Json.Legal.plain {fields : JsonObject} {levels : Nat} (h : Json.Legal (.object fields))
    (hfree : Json.FieldsFloatFree fields)
    (hdepth : (Json.objectToDocument fields).depth ≤ levels) : Json.Plain levels fields :=
  ⟨Json.fits_iff.mpr ⟨h, hdepth⟩, hfree⟩

/-- A part that was read and has no floating-point number in its free objects is plain. -/
lemma Part.Fits.plain {levels : Nat} {p : Part} (h : p.Fits levels)
    (hfree : ∀ fields ∈ p.objects, Json.FieldsFloatFree fields) : p.Plain levels :=
  ⟨h, fun fields hfields => hfree fields (Option.mem_toList.mpr hfields)⟩

/-- The free objects of a record with parts are its metadata and those of its parts. -/
lemma Part.forall_mem_objects {metadata : JsonObject} {parts : List Part} {p : JsonObject → Prop} :
    (∀ fields ∈ metadata :: parts.flatMap Part.objects, p fields) ↔
      p metadata ∧ ∀ part ∈ parts, ∀ fields ∈ part.objects, p fields := by
  rw [List.forall_mem_cons]
  apply and_congr_right
  intro _
  constructor
  · intro h part hpart fields hfields
    exact h fields (List.mem_flatMap.mpr ⟨part, hpart, hfields⟩)
  · intro h fields hfields
    obtain ⟨part, hpart, hfields⟩ := List.mem_flatMap.mp hfields
    exact h part hpart fields hfields

/-- Metadata and parts fit the levels that the record of them is written with. -/
lemma Part.fits_parts_iff {levels : Nat} {metadata : JsonObject} {parts : List Part} :
    (Json.Fits (levels + 2) (.object metadata) ∧ ∀ p ∈ parts, p.Fits levels) ↔
      (∀ fields ∈ metadata :: parts.flatMap Part.objects, Json.Legal (.object fields)) ∧
        (∀ p ∈ parts, p.InRange) ∧ (Json.objectToDocument metadata).depth ≤ levels + 2 ∧
          ∀ p ∈ parts, p.toDocument.depth ≤ levels + 1 := by
  rw [Part.forall_mem_objects, Json.fits_iff]
  simp only [Part.fits_iff]
  constructor
  · rintro ⟨⟨hlegal, hdepth⟩, hparts⟩
    exact ⟨⟨hlegal, fun p hp => (hparts p hp).2.1⟩, fun p hp => (hparts p hp).1, hdepth,
      fun p hp => (hparts p hp).2.2⟩
  · rintro ⟨⟨hlegal, hobjects⟩, hrange, hdepth, hdepths⟩
    exact ⟨⟨hlegal, hdepth⟩, fun p hp => ⟨hrange p hp, hobjects p hp, hdepths p hp⟩⟩

namespace RecordKind

/-! ### Documents -/

/-- What is written for a record is a JSON text. -/
lemma write_wellFormed (kind : RecordKind) (v : kind.Record) : (kind.write v).WellFormed :=
  match kind with
  | .space => Space.toDocument_wellFormed v
  | .session => Session.toDocument_wellFormed v
  | .message => Message.toDocument_wellFormed v
  | .task => Task.toDocument_wellFormed v
  | .disk => Disk.toDocument_wellFormed v
  | .asset => Asset.toDocument_wellFormed v
  | .part => Part.toDocument_wellFormed v
  | .learningStatus => LearningStatus.toDocument_wellFormed v
  | .messageInserted => MessageInserted.toDocument_wellFormed v
  | .sendMessage => SendMessage.toDocument_wellFormed v
  | .pageRequest => PageRequest.toDocument_wellFormed v
  | .pagingLimits => PagingLimits.toDocument_wellFormed v
  | .diskPage => Page.toDocument_wellFormed Disk.toDocument_wellFormed

/-- A record without doubles is read back from its document with the times that are written, if the
document is not too deep. -/
lemma read_write {kind : RecordKind} {v : kind.Record} (h : kind.Legal v)
    (hfree : kind.FloatFree v) (hdepth : (kind.write v).depth ≤ Json.maxLevels) :
    kind.read Json.maxLevels (kind.write v) = some (kind.asWritten v) := by
  obtain ⟨hobjects, hrange⟩ := h
  cases kind with
  | space =>
    have hlegal := hobjects _ (List.mem_singleton_self _)
    have hfree := hfree _ (List.mem_singleton_self _)
    exact Space.read_toDocument (hlegal.plain hfree (Space.depth_toDocument_le_iff.mp hdepth))
  | session =>
    have hlegal := hobjects _ (List.mem_singleton_self _)
    have hfree := hfree _ (List.mem_singleton_self _)
    exact Session.read_toDocument (hlegal.plain hfree (Session.depth_toDocument_le_iff.mp hdepth))
  | task =>
    have hlegal := hobjects _ (List.mem_singleton_self _)
    have hfree := hfree _ (List.mem_singleton_self _)
    exact Task.read_toDocument (hlegal.plain hfree (Task.depth_toDocument_le_iff.mp hdepth)) hrange
  | message =>
    have hdepth := Message.depth_toDocument_le_iff.mp hdepth
    obtain ⟨hmeta, hparts⟩ := Part.fits_parts_iff.mpr ⟨hobjects, hrange, hdepth⟩
    obtain ⟨hmetaFree, hpartsFree⟩ := Part.forall_mem_objects.mp hfree
    exact Message.read_toDocument ⟨hmeta, hmetaFree⟩ fun p hp =>
      (hparts p hp).plain (hpartsFree p hp)
  | sendMessage =>
    have hdepth := SendMessage.depth_toDocument_le_iff.mp hdepth
    obtain ⟨hmeta, hparts⟩ := Part.fits_parts_iff.mpr ⟨hobjects, hrange, hdepth⟩
    obtain ⟨hmetaFree, hpartsFree⟩ := Part.forall_mem_objects.mp hfree
    exact SendMessage.read_toDocument ⟨hmeta, hmetaFree⟩ fun p hp =>
      (hparts p hp).plain (hpartsFree p hp)
  | part =>
    have hfits := Part.fits_iff.mpr ⟨hrange, hobjects, hdepth⟩
    exact (hfits.plain hfree).read_toDocument
  | disk => exact Disk.read_toDocument v _
  | asset => exact Asset.read_toDocument hrange _
  | learningStatus => exact LearningStatus.read_toDocument hrange _
  | messageInserted => exact MessageInserted.read_toDocument v _
  | pageRequest => exact PageRequest.read_toDocument hrange _
  | pagingLimits => exact PagingLimits.read_toDocument hrange _
  | diskPage => exact Page.read_toDocument fun d _ => Disk.read_toDocument d _

/-- A record is the one that its text names exactly if none of its times lies within a leap second
that does not end a minute. -/
lemma asWritten_eq_self_iff {kind : RecordKind} {v : kind.Record} :
    kind.asWritten v = v ↔ ∀ t ∈ kind.times v, t.LeapEndsMinute := by
  have htwo : ∀ createdAt updatedAt : Instant,
      (createdAt.asWritten = createdAt ∧ updatedAt.asWritten = updatedAt) ↔
        ∀ t ∈ [createdAt, updatedAt], t.LeapEndsMinute := by
    simp [Instant.asWritten_eq_self_iff]
  cases kind with
  | space => exact Space.mapTimes_eq_self_iff.trans (htwo _ _)
  | session => exact Session.mapTimes_eq_self_iff.trans (htwo _ _)
  | message => exact Message.mapTimes_eq_self_iff.trans (htwo _ _)
  | task => exact Task.mapTimes_eq_self_iff.trans (htwo _ _)
  | disk => exact Disk.mapTimes_eq_self_iff.trans (htwo _ _)
  | diskPage =>
    obtain ⟨items, hasMore, nextCursor⟩ := v
    have hitems : items.map (Disk.mapTimes Instant.asWritten) = items ↔
        ∀ d ∈ items, d.mapTimes Instant.asWritten = d := by
      simpa using List.map_inj_left (f := Disk.mapTimes Instant.asWritten) (g := id)
    change (⟨items.map (Disk.mapTimes Instant.asWritten), hasMore, nextCursor⟩ : Page Disk) =
      ⟨items, hasMore, nextCursor⟩ ↔
        ∀ t ∈ items.flatMap fun d => [d.createdAt, d.updatedAt], t.LeapEndsMinute
    simp only [Page.mk.injEq, and_true, hitems, Disk.mapTimes_eq_self_iff, htwo, List.mem_flatMap]
    exact ⟨fun h t ⟨d, hd, ht⟩ => h d hd t ht, fun h d hd t ht => h t ⟨d, hd, ht⟩⟩
  | asset | part | learningStatus | messageInserted | sendMessage | pageRequest | pagingLimits =>
    exact iff_of_true rfl (List.forall_mem_nil _)

/-- The record that a text names has this text as well. -/
lemma write_asWritten (kind : RecordKind) (v : kind.Record) :
    kind.write (kind.asWritten v) = kind.write v := by
  cases kind with
  | space => simp [write, asWritten, Space.toDocument, Space.mapTimes]
  | session => simp [write, asWritten, Session.toDocument, Session.mapTimes]
  | message => simp [write, asWritten, Message.toDocument, Message.mapTimes]
  | task => simp [write, asWritten, Task.toDocument, Task.mapTimes]
  | disk => simp [write, asWritten, Disk.toDocument, Disk.mapTimes]
  | diskPage =>
    have hitem : ∀ d : Disk, (d.mapTimes Instant.asWritten).toDocument = d.toDocument := by
      simp [Disk.toDocument, Disk.mapTimes]
    simp [write, asWritten, Page.toDocument, Function.comp_def, hitem]
  | asset | part | learningStatus | messageInserted | sendMessage | pageRequest | pagingLimits =>
    rfl

/-- What is read is a record as its type allows it that its text names, and it is written no deeper
than it can be read. -/
lemma legal_of_read {kind : RecordKind} {d : Document} {v : kind.Record}
    (h : kind.read Json.maxLevels d = some v) :
    kind.Legal v ∧ (∀ t ∈ kind.times v, t.LeapEndsMinute) ∧
      (kind.write v).depth ≤ Json.maxLevels := by
  have htwo : ∀ {createdAt updatedAt : Instant},
      createdAt.LeapEndsMinute ∧ updatedAt.LeapEndsMinute →
        ∀ t ∈ [createdAt, updatedAt], t.LeapEndsMinute := by
    simp
  cases kind with
  | space =>
    obtain ⟨hfits, htimes⟩ := Space.fits_of_read h
    obtain ⟨hlegal, hdepth⟩ := Json.fits_iff.mp hfits
    exact ⟨⟨List.forall_mem_singleton.mpr hlegal, trivial⟩, htwo htimes,
      Space.depth_toDocument_le_iff.mpr hdepth⟩
  | session =>
    obtain ⟨hfits, htimes⟩ := Session.fits_of_read h
    obtain ⟨hlegal, hdepth⟩ := Json.fits_iff.mp hfits
    exact ⟨⟨List.forall_mem_singleton.mpr hlegal, trivial⟩, htwo htimes,
      Session.depth_toDocument_le_iff.mpr hdepth⟩
  | task =>
    obtain ⟨⟨hfits, horder⟩, htimes⟩ := Task.fits_of_read h
    obtain ⟨hlegal, hdepth⟩ := Json.fits_iff.mp hfits
    exact ⟨⟨List.forall_mem_singleton.mpr hlegal, horder⟩, htwo htimes,
      Task.depth_toDocument_le_iff.mpr hdepth⟩
  | message =>
    obtain ⟨hfits, htimes⟩ := Message.fits_of_read h
    obtain ⟨hlegal, hrange, hdepth⟩ := Part.fits_parts_iff.mp hfits
    exact ⟨⟨hlegal, hrange⟩, htwo htimes, Message.depth_toDocument_le_iff.mpr hdepth⟩
  | sendMessage =>
    obtain ⟨hlegal, hrange, hdepth⟩ := Part.fits_parts_iff.mp (SendMessage.fits_of_read h)
    exact ⟨⟨hlegal, hrange⟩, List.forall_mem_nil _, SendMessage.depth_toDocument_le_iff.mpr hdepth⟩
  | part =>
    obtain ⟨hrange, hlegal, hdepth⟩ := Part.fits_iff.mp (Part.fits_of_read h)
    exact ⟨⟨hlegal, hrange⟩, List.forall_mem_nil _, hdepth⟩
  | disk =>
    exact ⟨⟨List.forall_mem_nil _, trivial⟩, htwo (Disk.leapEndsMinute_of_read h),
      Disk.depth_toDocument_le v _⟩
  | asset =>
    exact ⟨⟨List.forall_mem_nil _, Asset.sizeB_lt_of_read h⟩, List.forall_mem_nil _,
      Asset.depth_toDocument_le v _⟩
  | learningStatus =>
    exact ⟨⟨List.forall_mem_nil _, LearningStatus.lt_of_read h⟩, List.forall_mem_nil _,
      LearningStatus.depth_toDocument_le v _⟩
  | messageInserted =>
    exact ⟨⟨List.forall_mem_nil _, trivial⟩, List.forall_mem_nil _,
      MessageInserted.depth_toDocument_le v _⟩
  | pageRequest =>
    exact ⟨⟨List.forall_mem_nil _, PageRequest.lt_of_read h⟩, List.forall_mem_nil _,
      PageRequest.depth_toDocument_le v _⟩
  | pagingLimits =>
    exact ⟨⟨List.forall_mem_nil _, PagingLimits.lt_of_read h⟩, List.forall_mem_nil _,
      PagingLimits.depth_toDocument_le v _⟩
  | diskPage =>
    refine ⟨⟨List.forall_mem_nil _, trivial⟩, fun t ht => ?_, ?_⟩
    · obtain ⟨d, hd, ht⟩ := List.mem_flatMap.mp ht
      obtain ⟨item, hread⟩ := Page.exists_of_mem_items h d hd
      exact htwo (Disk.leapEndsMinute_of_read hread) t ht
    · exact Page.depth_toDocument_le_iff.mpr fun d _ => Disk.depth_toDocument_le d _

/-! ### Texts -/

/-- The text of a record is read as the document that is written. -/
lemma parse_text (kind : RecordKind) (v : kind.Record) :
    kind.parse (kind.text v) = kind.read Json.maxLevels (kind.write v) := by
  rw [parse, text, Document.ofString?_compact (kind.write_wellFormed v), Option.bind_some]

/-- A record and the one that its text names have one text. -/
lemma text_asWritten (kind : RecordKind) (v : kind.Record) :
    kind.text (kind.asWritten v) = kind.text v := by
  rw [text, text, write_asWritten]

/-- White space between the parts of a text makes no difference. -/
lemma parse_lines (kind : RecordKind) (v : kind.Record) :
    kind.parse (kind.lines v) = kind.parse (kind.text v) := by
  rw [parse_text, parse, lines, Document.ofString?_pretty (kind.write_wellFormed v),
    Option.bind_some]

/-- A record as its type allows it that holds no doubles comes back from its text, and from the same
text laid out on lines, exactly if the text nests no deeper than texts are read. It comes back with
the times that are written: with its own exactly if none of them lies within a leap second that does
not end a minute, since the record that comes back has the same text. Every record that a text is
read as is one of these that comes back with its own times, unless it holds doubles: it is read back
from what is written for it, and that is written again. -/
theorem round_trips (kind : RecordKind) :
    (∀ v, kind.Legal v → kind.FloatFree v →
      (kind.parse (kind.text v) = some (kind.asWritten v) ↔
        (kind.write v).depth ≤ Json.maxLevels) ∧
      (kind.parse (kind.text v) = some v ↔
        (kind.write v).depth ≤ Json.maxLevels ∧ ∀ t ∈ kind.times v, t.LeapEndsMinute) ∧
      kind.text (kind.asWritten v) = kind.text v ∧
      kind.parse (kind.lines v) = kind.parse (kind.text v)) ∧
    ∀ s v, kind.parse s = some v →
      kind.Legal v ∧ (∀ t ∈ kind.times v, t.LeapEndsMinute) ∧
        (kind.write v).depth ≤ Json.maxLevels ∧
        (kind.FloatFree v → kind.parse (kind.text v) = some v ∧
          (kind.parse (kind.text v)).map kind.text = some (kind.text v)) := by
  have hlegal : ∀ s v, kind.parse s = some v → kind.Legal v ∧
      (∀ t ∈ kind.times v, t.LeapEndsMinute) ∧ (kind.write v).depth ≤ Json.maxLevels := by
    intro s v h
    obtain ⟨d, -, hread⟩ := Option.bind_eq_some_iff.mp h
    exact legal_of_read hread
  have hback : ∀ v, kind.Legal v → kind.FloatFree v → (kind.write v).depth ≤ Json.maxLevels →
      kind.parse (kind.text v) = some (kind.asWritten v) := by
    intro v hv hfree hdepth
    rw [parse_text, read_write hv hfree hdepth]
  constructor
  · intro v hv hfree
    refine ⟨⟨fun h => ?_, hback v hv hfree⟩, ⟨fun h => ?_, ?_⟩, text_asWritten kind v,
      parse_lines kind v⟩
    · rw [← write_asWritten]
      exact (hlegal _ _ h).2.2
    · obtain ⟨-, htimes, hdepth⟩ := hlegal _ v h
      exact ⟨hdepth, htimes⟩
    · rintro ⟨hdepth, htimes⟩
      rw [hback v hv hfree hdepth, asWritten_eq_self_iff.mpr htimes]
  · intro s v h
    obtain ⟨hv, htimes, hdepth⟩ := hlegal s v h
    refine ⟨hv, htimes, hdepth, fun hfree => ?_⟩
    have htext : kind.parse (kind.text v) = some v := by
      rw [hback v hv hfree hdepth, asWritten_eq_self_iff.mpr htimes]
    exact ⟨htext, by rw [htext, Option.map_some]⟩

/-- A message of a leap second after the year 9999 comes back with the metadata of its part. A
session that is given without some of its fields, and with one that is none of a session, is written
with all of its own and comes back. -/
theorem round_trips_leap_second :
    let leap : Instant := ⟨253402300859, 1500000000, by decide, by decide⟩
    let call : Part := { kind := .toolCall, metadata := some [("arguments", .object
      [("path", .string "a\nb"), ("sizes", .array [.int (-1), .null])]), ("name", .string "ls")] }
    let m : Message := ⟨.ofNat 1, .ofNat 2, none, .assistant, [("tags", .array [])], [call],
      some (.ofNat 3), .running, leap, leap⟩
    let given : Document := .record [("updated_at", leap.toDocument), ("tags", .array []),
      ("project_id", (Uuid.ofNat 5).toDocument), ("id", (Uuid.ofNat 4).toDocument),
      ("created_at", leap.toDocument)]
    let s : Session := ⟨.ofNat 4, .ofNat 5, none, [], leap, leap⟩
    (message.Legal m ∧ message.FloatFree m ∧ (message.write m).depth ≤ Json.maxLevels ∧
      (∀ t ∈ message.times m, t.LeapEndsMinute) ∧ message.parse (message.text m) = some m) ∧
    session.parse given.compact = some s ∧ session.FloatFree s ∧
      session.parse (session.text s) = some s := by
  intro leap call m given s
  have hgiven : session.parse given.compact = some s := by
    have hwritten : leap.asWritten = leap := rfl
    clear_value leap
    have hwf : given.WellFormed := Json.record_wellFormed (by simp; trivial)
    rw [parse, Document.ofString?_compact hwf, Option.bind_some]
    simp [read, Session.read, given, Json.maxLevels, Document.record, Json.fields?,
      Json.knownFields?, Json.Fields.required, Json.Fields.withDefault, Json.Fields.get?,
      List.lookup_cons, hwritten]
    rfl
  have hfree : session.FloatFree s := List.forall_mem_singleton.mpr trivial
  have hlegal : message.Legal m := by
    refine ⟨Part.forall_mem_objects.mpr ⟨?_, ?_⟩, ?_⟩
    · exact ⟨⟨trivial, trivial⟩, List.pairwise_singleton _ _⟩
    · refine List.forall_mem_singleton.mpr (List.forall_mem_singleton.mpr ?_)
      have hinner : "path" < "sizes" := by decide
      have houter : "arguments" < "name" := by decide
      have hvalues : Json.FieldsLegal [("path", .string "a\nb"),
          ("sizes", .array [.int (-1), .null])] :=
        ⟨trivial, ⟨⟨by decide, by decide⟩, trivial, trivial⟩, trivial⟩
      refine ⟨⟨⟨hvalues, ?_⟩, trivial, trivial⟩, ?_⟩
      · exact List.pairwise_pair.mpr hinner
      · exact List.pairwise_pair.mpr houter
    · refine List.forall_mem_singleton.mpr ?_
      intro a ha
      exact absurd ha (Option.not_mem_none a)
  have hplain : message.FloatFree m := by
    refine Part.forall_mem_objects.mpr ⟨⟨trivial, trivial⟩, List.forall_mem_singleton.mpr ?_⟩
    refine List.forall_mem_singleton.mpr ?_
    exact ⟨⟨trivial, ⟨trivial, trivial, trivial⟩, trivial⟩, trivial, trivial⟩
  have hdepth : (message.write m).depth ≤ Json.maxLevels := by decide
  have htimes : ∀ t ∈ message.times m, t.LeapEndsMinute := by decide
  refine ⟨⟨hlegal, hplain, hdepth, htimes, ?_⟩, hgiven, hfree, ?_⟩
  · exact ((round_trips .message).1 m hlegal hplain).2.1.mpr ⟨hdepth, htimes⟩
  · exact (((round_trips .session).2 _ s hgiven).2.2.2 hfree).1

/-- A disk of the leap second that follows the fourth second of 1970 comes back as one of the fifth:
its text is that of the other disk as well. -/
theorem leap_within_minute_not_read_back :
    let leap : Instant := ⟨4, 1333333333, by decide, by decide⟩
    let next : Instant := ⟨5, 333333333, by decide, by decide⟩
    let d : Disk := .new (.ofNat 1) leap (.ofNat 7)
    let other : Disk := .new (.ofNat 1) next (.ofNat 7)
    disk.Legal d ∧ disk.FloatFree d ∧ (disk.write d).depth ≤ Json.maxLevels ∧
      disk.text d = disk.text other ∧ disk.parse (disk.text d) = some other ∧
      disk.parse (disk.text d) ≠ some d := by
  intro leap next d other
  have hnext : leap.asWritten = next := by decide
  have hother : disk.asWritten d = other :=
    congrArg (fun time => Disk.new (.ofNat 1) time (.ofNat 7)) hnext
  have hlegal : disk.Legal d := ⟨List.forall_mem_nil _, trivial⟩
  have hfree : disk.FloatFree d := List.forall_mem_nil _
  have hdepth : (disk.write d).depth ≤ Json.maxLevels := Disk.depth_toDocument_le d _
  have hread : disk.parse (disk.text d) = some other :=
    (parse_text disk d).trans ((read_write hlegal hfree hdepth).trans (congrArg some hother))
  refine ⟨hlegal, hfree, hdepth, ?_, hread, ?_⟩
  · exact (text_asWritten disk d).symm.trans (congrArg disk.text hother)
  · rw [hread]
    intro hsame
    have htimes : next = leap := congrArg Disk.createdAt (Option.some.inj hsame)
    exact absurd htimes (by decide)

end RecordKind

end Colloquy
