import Footage.Clip.Segment
import Footage.Document.Reading

/-!
# Segments and clip records as document values

Both are persisted as records all of whose fields are required.
-/

namespace Footage.Clip

open Footage.Document

set_option autoImplicit false

namespace Segment

def shape : Shape where
  record := "Segment"
  fields :=
    [.mandatory "file_name" Value.asText,
      .mandatory "dir" Value.asText,
      .mandatory "location_name" Value.asText,
      .mandatory "start_ms" Value.asInt64,
      .mandatory "end_ms" Value.asInt64,
      .mandatory "prev_path" Value.asText,
      .mandatory "width" Value.asUInt32,
      .mandatory "height" Value.asUInt32]

def ofValue (value : Value) : Reading Segment := do
  let entries ← shape.entries value
  return {
    fileName := ← Table.mandatory entries "file_name" Value.asText
    dir := ← Table.mandatory entries "dir" Value.asText
    location := ← Table.mandatory entries "location_name" Value.asText
    startMs := ← Table.mandatory entries "start_ms" Value.asInt64
    endMs := ← Table.mandatory entries "end_ms" Value.asInt64
    prevPath := ← Table.mandatory entries "prev_path" Value.asText
    width := ← Table.mandatory entries "width" Value.asUInt32
    height := ← Table.mandatory entries "height" Value.asUInt32 }

def toValue (segment : Segment) : Value :=
  .table
    [("file_name", .text segment.fileName),
      ("dir", .text segment.dir),
      ("location_name", .text segment.location),
      ("start_ms", .integer segment.startMs.toInt),
      ("end_ms", .integer segment.endMs.toInt),
      ("prev_path", .text segment.prevPath),
      ("width", .integer segment.width.toNat),
      ("height", .integer segment.height.toNat)]

end Segment

namespace Record

def shape : Shape where
  record := "ClipRecord"
  fields :=
    [.mandatory "path" Value.asText,
      .mandatory "location_name" Value.asText,
      .mandatory "start_ms" Value.asInt64,
      .mandatory "end_ms" Value.asInt64,
      .mandatory "prev_path" Value.asText,
      .mandatory "width" Value.asUInt32,
      .mandatory "height" Value.asUInt32]

def ofValue (value : Value) : Reading Record := do
  let entries ← shape.entries value
  return {
    path := ← Table.mandatory entries "path" Value.asText
    location := ← Table.mandatory entries "location_name" Value.asText
    startMs := ← Table.mandatory entries "start_ms" Value.asInt64
    endMs := ← Table.mandatory entries "end_ms" Value.asInt64
    prevPath := ← Table.mandatory entries "prev_path" Value.asText
    width := ← Table.mandatory entries "width" Value.asUInt32
    height := ← Table.mandatory entries "height" Value.asUInt32 }

def toValue (record : Record) : Value :=
  .table
    [("path", .text record.path),
      ("location_name", .text record.location),
      ("start_ms", .integer record.startMs.toInt),
      ("end_ms", .integer record.endMs.toInt),
      ("prev_path", .text record.prevPath),
      ("width", .integer record.width.toNat),
      ("height", .integer record.height.toNat)]

end Record

end Footage.Clip
