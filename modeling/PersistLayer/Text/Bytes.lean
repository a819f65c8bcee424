/-!
# Positions counted in bytes

Positions in source text count the bytes of its UTF-8 form.  A cut at a byte
position is possible only between two characters; `afterBytes?` and
`uptoBytes` say what lies on either side.
-/

namespace PersistLayer.Text

/-- The number of bytes of a text in UTF-8. -/
def byteLength (text : List Char) : Nat := text.foldr (fun c count => c.utf8Size + count) 0

/-- The text after its first `count` bytes, or nothing when those bytes end
inside a character or beyond the text. -/
def afterBytes? : Nat → List Char → Option (List Char)
  | 0, text => some text
  | _ + 1, [] => none
  | count + 1, c :: rest =>
    if c.utf8Size ≤ count + 1 then afterBytes? (count + 1 - c.utf8Size) rest else none

/-- The characters that lie wholly within the first `count` bytes. -/
def uptoBytes : Nat → List Char → List Char
  | _, [] => []
  | count, c :: rest =>
    if c.utf8Size ≤ count then c :: uptoBytes (count - c.utf8Size) rest else []

@[simp] theorem byteLength_nil : byteLength [] = 0 := rfl

@[simp] theorem byteLength_cons (c : Char) (rest : List Char) :
    byteLength (c :: rest) = c.utf8Size + byteLength rest := rfl

@[simp] theorem byteLength_append (front back : List Char) :
    byteLength (front ++ back) = byteLength front + byteLength back := by
  induction front with
  | nil => simp
  | cons c rest ih => simp [ih, Nat.add_assoc]

/-- A cut at a character boundary gives back what follows it. -/
theorem afterBytes?_append (front back : List Char) :
    afterBytes? (byteLength front) (front ++ back) = some back := by
  induction front with
  | nil => cases back <;> rfl
  | cons c rest ih =>
      have hpos : 0 < c.utf8Size := Char.utf8Size_pos c
      obtain ⟨count, hcount⟩ : ∃ count, c.utf8Size + byteLength rest = count + 1 :=
        ⟨c.utf8Size + byteLength rest - 1, by omega⟩
      have hle : c.utf8Size ≤ count + 1 := by omega
      have hrest : count + 1 - c.utf8Size = byteLength rest := by omega
      simp [hcount, afterBytes?, hle, hrest, ih]

/-- What precedes a cut at a character boundary. -/
theorem uptoBytes_append (front back : List Char) :
    uptoBytes (byteLength front) (front ++ back) = front := by
  induction front with
  | nil =>
      cases back with
      | nil => rfl
      | cons c rest =>
          have hpos : 0 < c.utf8Size := Char.utf8Size_pos c
          have hgt : ¬ c.utf8Size ≤ 0 := by omega
          simp [uptoBytes, hgt]
  | cons c rest ih => simp [uptoBytes, ih]

/-- What stands between two cuts at character boundaries. -/
theorem uptoBytes_between (front piece back : List Char) :
    uptoBytes (byteLength (front ++ piece) - byteLength front)
      ((afterBytes? (byteLength front) (front ++ piece ++ back)).getD []) = piece := by
  have hlength : byteLength (front ++ piece) - byteLength front = byteLength piece := by
    rw [byteLength_append]
    omega
  rw [hlength, List.append_assoc, afterBytes?_append, Option.getD_some, uptoBytes_append]

/-- What follows a cut is what is left without the bytes in front of it. -/
theorem exists_of_afterBytes? {count : Nat} {text back : List Char}
    (h : afterBytes? count text = some back) :
    ∃ front, text = front ++ back ∧ byteLength front = count := by
  induction text generalizing count with
  | nil =>
      cases count with
      | zero =>
          cases h
          exact ⟨[], rfl, rfl⟩
      | succ count => simp [afterBytes?] at h
  | cons c rest ih =>
      cases count with
      | zero =>
          cases h
          exact ⟨[], rfl, rfl⟩
      | succ count =>
          simp only [afterBytes?] at h
          split at h
          · obtain ⟨front, hrest, hfront⟩ := ih h
            refine ⟨c :: front, by rw [hrest]; rfl, ?_⟩
            rw [byteLength_cons]
            omega
          · cases h

end PersistLayer.Text
