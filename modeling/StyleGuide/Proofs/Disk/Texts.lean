import StyleGuide.Disk

/-!
# Texts on a disk

A file holds a text if its bytes are those of the text. Reading it gives this text and no other.
-/

namespace StyleGuide

def Disk.Holds (d : Disk) (p : Path) (text : String) : Prop :=
  d.read p = .ok text.toUTF8

theorem Text.Utf8.decode?_eq_some {bytes : ByteArray} {text : String} :
    decode? bytes = some text ↔ bytes = text.toUTF8 := by
  unfold decode? String.fromUTF8?
  constructor
  · intro h
    split at h
    · cases h
      rfl
    · cases h
  · rintro rfl
    exact dif_pos text.isValidUTF8

theorem Text.Utf8.decodeLossy_toUTF8 (text : String) : decodeLossy text.toUTF8 = text := by
  unfold decodeLossy
  rw [decode?_eq_some.mpr rfl]

theorem Disk.readText_eq_ok {d : Disk} {p : Path} {text : String} :
    d.readText p = .ok text ↔ d.Holds p text := by
  rw [readText, Holds]
  cases d.read p with
  | error cause => constructor <;> intro h <;> cases h
  | ok bytes =>
    rw [Except.ok.injEq, ← Text.Utf8.decode?_eq_some]
    dsimp only [bind, Except.bind]
    cases Text.Utf8.decode? bytes <;> simp

theorem Disk.isFile_of_holds {d : Disk} {p : Path} {text : String} (h : d.Holds p text) :
    d.isFile p = true := by
  unfold isFile
  cases hnode : d.lookUp p with
  | error cause => rw [Holds, read, hnode] at h; cases h
  | ok node =>
    cases node with
    | file bytes => rfl
    | directory => rw [Holds, read, hnode] at h; cases h

theorem Disk.contains_of_holds {d : Disk} {p : Path} {text : String} (h : d.Holds p text) :
    d.contains p = true := by
  unfold contains
  cases hnode : d.lookUp p with
  | ok node => rfl
  | error cause => rw [Holds, read, hnode] at h; cases h

end StyleGuide
