import OpReturn.Script.Push
import OpReturn.Script.Reader
import OpReturn.Text.Ascii
import OpReturn.Text.Base64
import OpReturn.Text.Hex
import OpReturn.Text.Utf8

/-!
# Attachments

An attachment is some content with its media type, its encoding and possibly a file name, pushed
in this order. Contents in the encodings `hex` and `base64` can be decoded; all others stand for
themselves.
-/

namespace OpReturn

/-- Some content and what it is. -/
structure AttachmentRecord where
  content : Bytes
  mediaType : String
  encoding : String
  filename : Option String := none
deriving DecidableEq, Repr

namespace AttachmentRecord

/-- The tag of attachments. -/
def tag : Bytes := Utf8.encode "19HxigV4QyBv3tHpQVcUEQyq1pzZVdoAut"

/-- The record of a payload; `none` if it is cut short or has fewer than three fields. -/
def decode (payload : Bytes) : Option AttachmentRecord :=
  match Chunk.parseAll payload with
  | .ok (content :: mediaType :: encoding :: rest) => some
    { content := content.data
      mediaType := Utf8.decode mediaType.data
      encoding := Utf8.decode encoding.data
      filename := rest.head?.map fun name => Utf8.decode name.data }
  | _ => none

/-- The items that the payload of a record pushes. -/
def items (record : AttachmentRecord) : List Bytes :=
  [record.content, Utf8.encode record.mediaType, Utf8.encode record.encoding]
    ++ (record.filename.map Utf8.encode).toList

/-- The payload of a record. -/
def payload (record : AttachmentRecord) : Except WriteError Bytes := encodePushes record.items

/-! ## Content -/

/-- Why content does not fit its encoding. -/
inductive ContentError where
  | ascii (e : Ascii.DecodeError)
  | hex (e : Hex.DecodeError)
  | base64 (e : Base64.DecodeError)
deriving DecidableEq, Repr

/-- What went wrong, in words. -/
def ContentError.message : ContentError → String
  | .ascii e => e.message
  | .hex e => e.message
  | .base64 e => e.message

/-- The content with its encoding undone. -/
def decodedContent (record : AttachmentRecord) : Except ContentError Bytes :=
  if record.encoding = "hex" then
    match Ascii.decode record.content with
    | .error e => .error (.ascii e)
    | .ok text => (Hex.decode text).mapError .hex
  else if record.encoding = "base64" then (Base64.decode record.content).mapError .base64
  else .ok record.content

end AttachmentRecord
end OpReturn
