import GrammarLoad.Text.Piece

/-!
Two laws of reading bytes: the pieces hold exactly the bytes that were read, and the bytes of a text
are read as its characters.
-/
namespace GrammarLoad.Piece

theorem toNat_ofNat {n : Nat} (h : n < 0xD800 ∨ 0xDFFF < n ∧ n < 0x110000) :
    (Char.ofNat n).val.toNat = n := by
  have hv : n.isValidChar := h
  unfold Char.ofNat
  rw [dif_pos hv]
  rfl

theorem ofNat_eq_of_toNat {n : Nat} {b : UInt8} (h : n = b.toNat) : UInt8.ofNat n = b := by
  subst h
  simp

/-- Whatever bytes complete the character, they and those seen are its encoding. -/
def Completes (seen : List UInt8) (value low high : Nat) : Nat → Prop
  | 0 => ∀ b : UInt8, low ≤ b.toNat → b.toNat ≤ high →
      String.utf8EncodeChar (Char.ofNat (value * 64 + (b.toNat - 0x80))) = seen ++ [b]
  | later + 1 => ∀ b : UInt8, low ≤ b.toNat → b.toNat ≤ high →
      Completes (seen ++ [b]) (value * 64 + (b.toNat - 0x80)) 0x80 0xBF later

def Sound : Option Pending → Prop
  | none => True
  | some p => Completes p.seen p.value p.low p.high p.later

/-- The bytes that wait for the rest of their character. -/
def waiting : Option Pending → List UInt8
  | none => []
  | some p => p.seen

theorem encode_one {b : UInt8} (h : b.toNat < 0x80) :
    String.utf8EncodeChar (Char.ofNat b.toNat) = [b] := by
  have hv := toNat_ofNat (n := b.toNat) (by omega)
  simp only [String.utf8EncodeChar, hv]
  rw [if_pos (by omega), ofNat_eq_of_toNat rfl]

theorem encode_two {a b : UInt8} (ha : 0xC2 ≤ a.toNat) (ha' : a.toNat < 0xE0)
    (hb : 0x80 ≤ b.toNat) (hb' : b.toNat ≤ 0xBF) :
    String.utf8EncodeChar (Char.ofNat ((a.toNat - 0xC0) * 64 + (b.toNat - 0x80))) = [a, b] := by
  have hv := toNat_ofNat (n := (a.toNat - 0xC0) * 64 + (b.toNat - 0x80)) (by omega)
  simp only [String.utf8EncodeChar, hv]
  rw [if_neg (by omega), if_pos (by omega), ofNat_eq_of_toNat (b := a) (by omega),
    ofNat_eq_of_toNat (b := b) (by omega)]

theorem encode_three {a b c : UInt8} (ha : 0xE0 ≤ a.toNat) (ha' : a.toNat < 0xF0)
    (hb : (if a.toNat = 0xE0 then 0xA0 else 0x80) ≤ b.toNat)
    (hb' : b.toNat ≤ (if a.toNat = 0xED then 0x9F else 0xBF))
    (hc : 0x80 ≤ c.toNat) (hc' : c.toNat ≤ 0xBF) :
    String.utf8EncodeChar (Char.ofNat
      (((a.toNat - 0xE0) * 64 + (b.toNat - 0x80)) * 64 + (c.toNat - 0x80))) = [a, b, c] := by
  have hb0 : 0x80 ≤ b.toNat := by split at hb <;> omega
  have hb1 : b.toNat ≤ 0xBF := by split at hb' <;> omega
  have hlow : 0x800 ≤ (a.toNat - 0xE0) * 4096 + (b.toNat - 0x80) * 64 := by
    split at hb <;> omega
  have hsur : a.toNat = 0xED → b.toNat ≤ 0x9F := by
    intro h
    rwa [if_pos h] at hb'
  have hv := toNat_ofNat
    (n := ((a.toNat - 0xE0) * 64 + (b.toNat - 0x80)) * 64 + (c.toNat - 0x80)) (by omega)
  simp only [String.utf8EncodeChar, hv]
  rw [if_neg (by omega), if_neg (by omega), if_pos (by omega),
    ofNat_eq_of_toNat (b := a) (by omega), ofNat_eq_of_toNat (b := b) (by omega),
    ofNat_eq_of_toNat (b := c) (by omega)]

theorem encode_four {a b c d : UInt8} (ha : 0xF0 ≤ a.toNat) (ha' : a.toNat < 0xF5)
    (hb : (if a.toNat = 0xF0 then 0x90 else 0x80) ≤ b.toNat)
    (hb' : b.toNat ≤ (if a.toNat = 0xF4 then 0x8F else 0xBF))
    (hc : 0x80 ≤ c.toNat) (hc' : c.toNat ≤ 0xBF) (hd : 0x80 ≤ d.toNat) (hd' : d.toNat ≤ 0xBF) :
    String.utf8EncodeChar (Char.ofNat
      ((((a.toNat - 0xF0) * 64 + (b.toNat - 0x80)) * 64 + (c.toNat - 0x80)) * 64 +
        (d.toNat - 0x80))) = [a, b, c, d] := by
  have hb0 : 0x80 ≤ b.toNat := by split at hb <;> omega
  have hb1 : b.toNat ≤ 0xBF := by split at hb' <;> omega
  have hlow : 0x10000 ≤ (a.toNat - 0xF0) * 262144 + (b.toNat - 0x80) * 4096 := by
    split at hb <;> omega
  have hhigh : a.toNat = 0xF4 → b.toNat ≤ 0x8F := by
    intro h
    rwa [if_pos h] at hb'
  have hv := toNat_ofNat
    (n := (((a.toNat - 0xF0) * 64 + (b.toNat - 0x80)) * 64 + (c.toNat - 0x80)) * 64 +
      (d.toNat - 0x80)) (by omega)
  simp only [String.utf8EncodeChar, hv]
  rw [if_neg (by omega), if_neg (by omega), if_neg (by omega),
    ofNat_eq_of_toNat (b := a) (by omega), ofNat_eq_of_toNat (b := b) (by omega),
    ofNat_eq_of_toNat (b := c) (by omega), ofNat_eq_of_toNat (b := d) (by omega)]

theorem start_keeps (b : UInt8) :
    (start b).1.flatMap bytes ++ waiting (start b).2 = [b] ∧ Sound (start b).2 := by
  unfold start
  by_cases h1 : b.toNat < 0x80
  · simp [h1, bytes, waiting, Sound, encode_one]
  by_cases h2 : b.toNat < 0xC2
  · simp [h1, h2, bytes, waiting, Sound]
  by_cases h3 : b.toNat < 0xE0
  · simp only [h1, h2, h3, if_true, if_false]
    refine ⟨rfl, ?_⟩
    intro c hc hc'
    exact encode_two (by omega) h3 hc hc'
  by_cases h4 : b.toNat < 0xF0
  · simp only [h1, h2, h3, h4, if_true, if_false]
    refine ⟨rfl, ?_⟩
    intro c hc hc' d hd hd'
    exact encode_three (by omega) h4 hc hc' hd hd'
  by_cases h5 : b.toNat < 0xF5
  · simp only [h1, h2, h3, h4, h5, if_true, if_false]
    refine ⟨rfl, ?_⟩
    intro c hc hc' d hd hd' e he he'
    exact encode_four (by omega) h5 hc hc' hd hd' he he'
  · simp [h1, h2, h3, h4, h5, bytes, waiting, Sound]

theorem step_keeps {p : Option Pending} (hp : Sound p) (b : UInt8) :
    (step p b).1.flatMap bytes ++ waiting (step p b).2 = waiting p ++ [b] ∧
      Sound (step p b).2 := by
  cases p with
  | none => exact start_keeps b
  | some p =>
    obtain ⟨seen, value, low, high, later⟩ := p
    unfold step
    by_cases hb : low ≤ b.toNat ∧ b.toNat ≤ high
    · simp only [hb, and_self, if_true]
      cases later with
      | zero =>
        have henc := hp b hb.1 hb.2
        simp only [List.flatMap_cons, List.flatMap_nil, List.append_nil, bytes, waiting]
        exact ⟨henc, trivial⟩
      | succ later => exact ⟨rfl, hp b hb.1 hb.2⟩
    · simp only [if_neg hb]
      obtain ⟨hs, hsound⟩ := start_keeps b
      refine ⟨?_, hsound⟩
      show (seen ++ (start b).1.flatMap bytes) ++ waiting (start b).2 = seen ++ [b]
      rw [List.append_assoc, hs]

theorem flatMap_bytes_readFrom {p : Option Pending} (hp : Sound p) (bs : List UInt8) :
    (readFrom p bs).flatMap bytes = waiting p ++ bs := by
  induction bs generalizing p with
  | nil => cases p <;> simp [readFrom, finish, waiting, bytes]
  | cons b rest ih =>
    obtain ⟨hs, hsound⟩ := step_keeps hp b
    rw [readFrom_cons, List.flatMap_append, ih hsound, ← List.append_assoc, hs]
    simp

/-- No byte is lost. -/
theorem flatMap_bytes_read (bs : List UInt8) : (read bs).flatMap bytes = bs :=
  flatMap_bytes_readFrom (p := none) trivial bs

/-- Bytes that are read alike are the same bytes. -/
theorem read_injective {bs cs : List UInt8} (h : read bs = read cs) : bs = cs := by
  rw [← flatMap_bytes_read bs, h, flatMap_bytes_read]

theorem step_pending {seen : List UInt8} {value low high later : Nat} {b : UInt8}
    (hl : low ≤ b.toNat) (hh : b.toNat ≤ high) :
    step (some ⟨seen, value, low, high, later + 1⟩) b =
      ([], some ⟨seen ++ [b], value * 64 + (b.toNat - 0x80), 0x80, 0xBF, later⟩) := by
  simp [step, hl, hh]

theorem step_last {seen : List UInt8} {value low high : Nat} {b : UInt8}
    (hl : low ≤ b.toNat) (hh : b.toNat ≤ high) :
    step (some ⟨seen, value, low, high, 0⟩) b =
      ([.char (Char.ofNat (value * 64 + (b.toNat - 0x80)))], none) := by
  simp [step, hl, hh]

theorem toNat_byte {n : Nat} (h : n < 256) : (UInt8.ofNat n).toNat = n := by
  simp only [UInt8.toNat_ofNat']
  omega

theorem step_two {a : UInt8} (h : 0xC2 ≤ a.toNat) (h' : a.toNat < 0xE0) :
    step none a = ([], some ⟨[a], a.toNat - 0xC0, 0x80, 0xBF, 0⟩) := by
  simp only [step, start]
  rw [if_neg (by omega), if_neg (by omega), if_pos h']

theorem step_three {a : UInt8} (h : 0xE0 ≤ a.toNat) (h' : a.toNat < 0xF0) :
    step none a = ([], some ⟨[a], a.toNat - 0xE0, if a.toNat = 0xE0 then 0xA0 else 0x80,
      if a.toNat = 0xED then 0x9F else 0xBF, 1⟩) := by
  simp only [step, start]
  rw [if_neg (by omega), if_neg (by omega), if_neg (by omega), if_pos h']

theorem step_four {a : UInt8} (h : 0xF0 ≤ a.toNat) (h' : a.toNat < 0xF5) :
    step none a = ([], some ⟨[a], a.toNat - 0xF0, if a.toNat = 0xF0 then 0x90 else 0x80,
      if a.toNat = 0xF4 then 0x8F else 0xBF, 2⟩) := by
  simp only [step, start]
  rw [if_neg (by omega), if_neg (by omega), if_neg (by omega), if_neg (by omega), if_pos h']

theorem readFrom_step {p q : Option Pending} {b : UInt8} {out : List Piece} {rest : List UInt8}
    (h : step p b = (out, q)) : readFrom p (b :: rest) = out ++ readFrom q rest := by
  rw [readFrom_cons, h]

/-- The encoding of a character is read as that character. -/
theorem readFrom_encode (c : Char) (rest : List UInt8) :
    readFrom none (String.utf8EncodeChar c ++ rest) = .char c :: readFrom none rest := by
  have hc : c.val.toNat < 0xD800 ∨ 0xDFFF < c.val.toNat ∧ c.val.toNat < 0x110000 := c.valid
  have hself : Char.ofNat c.val.toNat = c := Char.ofNat_toNat c
  unfold String.utf8EncodeChar
  simp only
  generalize c.val.toNat = n at hc hself
  by_cases h1 : n ≤ 0x7F
  · have ha := toNat_byte (n := n) (by omega)
    rw [if_pos h1]
    simp only [List.cons_append, List.nil_append, readFrom_cons, step, start, ha]
    rw [if_pos (by omega), hself]
    rfl
  by_cases h2 : n ≤ 0x7FF
  · have ha := toNat_byte (n := n / 64 % 0x20 + 0xC0) (by omega)
    have hb := toNat_byte (n := n % 0x40 + 0x80) (by omega)
    rw [if_neg h1, if_pos h2]
    simp only [List.cons_append, List.nil_append]
    rw [readFrom_step (step_two (by omega) (by omega)),
      readFrom_step (step_last (by omega) (by omega)), ha, hb]
    have hv : (n / 64 % 0x20 + 0xC0 - 0xC0) * 64 + (n % 0x40 + 0x80 - 0x80) = n := by omega
    rw [hv, hself]
    rfl
  by_cases h3 : n ≤ 0xFFFF
  · have ha := toNat_byte (n := n / 4096 % 0x10 + 0xE0) (by omega)
    have hb := toNat_byte (n := n / 64 % 0x40 + 0x80) (by omega)
    have hd := toNat_byte (n := n % 0x40 + 0x80) (by omega)
    rw [if_neg h1, if_neg h2, if_pos h3]
    simp only [List.cons_append, List.nil_append]
    rw [readFrom_step (step_three (by omega) (by omega)),
      readFrom_step (step_pending (by rw [ha, hb]; split <;> omega)
        (by rw [ha, hb]; split <;> omega)),
      readFrom_step (step_last (by omega) (by omega)), ha, hb, hd]
    have hv : ((n / 4096 % 0x10 + 0xE0 - 0xE0) * 64 + (n / 64 % 0x40 + 0x80 - 0x80)) * 64 +
        (n % 0x40 + 0x80 - 0x80) = n := by omega
    rw [hv, hself]
    rfl
  · have ha := toNat_byte (n := n / 262144 % 0x08 + 0xF0) (by omega)
    have hb := toNat_byte (n := n / 4096 % 0x40 + 0x80) (by omega)
    have hd := toNat_byte (n := n / 64 % 0x40 + 0x80) (by omega)
    have he := toNat_byte (n := n % 0x40 + 0x80) (by omega)
    rw [if_neg h1, if_neg h2, if_neg h3]
    simp only [List.cons_append, List.nil_append]
    rw [readFrom_step (step_four (by omega) (by omega)),
      readFrom_step (step_pending (by rw [ha, hb]; split <;> omega)
        (by rw [ha, hb]; split <;> omega)),
      readFrom_step (step_pending (by omega) (by omega)),
      readFrom_step (step_last (by omega) (by omega)), ha, hb, hd, he]
    have hv : (((n / 262144 % 0x08 + 0xF0 - 0xF0) * 64 + (n / 4096 % 0x40 + 0x80 - 0x80)) * 64 +
        (n / 64 % 0x40 + 0x80 - 0x80)) * 64 + (n % 0x40 + 0x80 - 0x80) = n := by omega
    rw [hv, hself]
    rfl

/-- A text is read as its characters. -/
theorem read_utf8 (s : String) : read (utf8 s) = s.toList.map .char := by
  unfold utf8 read
  induction s.toList with
  | nil => rfl
  | cons c rest ih => rw [List.flatMap_cons, readFrom_encode, ih, List.map_cons]

theorem mapM_char?_eq_some_iff {ps : List Piece} {cs : List Char} :
    ps.mapM char? = some cs ↔ ps = cs.map .char := by
  induction ps generalizing cs with
  | nil => simp [eq_comm]
  | cons p rest ih =>
    rw [List.mapM_cons]
    cases p with
    | invalid bs => cases cs <;> simp [char?]
    | char c =>
      change ((rest.mapM char?).bind fun ds => some (c :: ds)) = some cs ↔ _
      rw [Option.bind_eq_some_iff]
      simp only [ih, Option.some.injEq]
      constructor
      · rintro ⟨ds, rfl, rfl⟩
        rfl
      · intro h
        cases cs with
        | nil => cases h
        | cons d ds =>
          obtain ⟨hc, hrest⟩ := List.cons.inj h
          obtain rfl := Piece.char.inj hc
          exact ⟨ds, hrest, rfl⟩

end GrammarLoad.Piece

namespace GrammarLoad

theorem display_utf8 (s : String) : display (utf8 s) = s := by
  simp [display, Piece.read_utf8, Function.comp_def, Piece.shown]

/-- Texts with the same bytes are the same. -/
theorem utf8_injective {s t : String} (h : utf8 s = utf8 t) : s = t := by
  rw [← display_utf8 s, h, display_utf8]

/-- Bytes that are text are the bytes of that text. -/
theorem text?_eq_some_iff {bytes : List UInt8} {s : String} :
    text? bytes = some s ↔ bytes = utf8 s := by
  unfold text?
  simp only [Option.map_eq_some_iff, Piece.mapM_char?_eq_some_iff]
  constructor
  · rintro ⟨cs, hread, rfl⟩
    apply Piece.read_injective
    rw [hread, Piece.read_utf8, String.toList_ofList]
  · rintro rfl
    exact ⟨s.toList, Piece.read_utf8 s, String.ofList_toList⟩

end GrammarLoad
