/-! Clipped texts. A message shows at most 200 bytes of the name of a type, in UTF-8; a character
that does not fit as a whole is shown as the replacement character, and nothing follows it. -/

namespace EditorConfig.Text

def replacement : Char := '\ufffd'

/-- The beginning of a text that fits into a number of bytes. -/
def clip : Nat → List Char → List Char
  | _, [] => []
  | room, c :: cs =>
    if c.utf8Size ≤ room then c :: clip (room - c.utf8Size) cs
    else if room = 0 then [] else [replacement]

/-- What fits is shown as a whole. -/
theorem clip_of_fits {room : Nat} {cs : List Char} (h : (String.ofList cs).utf8ByteSize ≤ room) :
    clip room cs = cs := by
  induction cs generalizing room with
  | nil => rfl
  | cons c cs ih =>
    rw [String.ofList_cons, String.utf8ByteSize_append, String.utf8ByteSize_singleton] at h
    rw [clip, if_pos (by omega), ih (by omega)]

/-- The room for the name of a type. -/
def typeNameBytes : Nat := 200

def clipped (s : String) : String := String.ofList (clip typeNameBytes s.toList)

end EditorConfig.Text
