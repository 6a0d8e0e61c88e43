import Mathlib.Data.List.Forall2
import Chip8.Display.Offscreen
import Chip8.Display.Window
import Chip8.Proofs.Screen

/-!
# Pictures in the colours of a palette

A screen of two planes has four colours, and a window writes three bytes for each pixel: red, green
and blue of what the palette in use has for it.  Each picture is written over the one before, so
that nothing is left of an earlier one.
-/

namespace Chip8

namespace Palette

/-- Every colour of the palette has 24 bits. -/
def Narrow (palette : Palette) : Prop := ∀ colour ∈ palette, 0 ≤ colour ∧ colour ≤ 0xFFFFFF

/-- Red, green and blue together are the colour. -/
def Mixes (colour : Int) (red green blue : UInt8) : Prop :=
  colour = red.toNat * 0x10000 + green.toNat * 0x100 + blue.toNat

/-- Only one red, green and blue mix a colour. -/
theorem Mixes.unique {colour : Int} {red green blue red' green' blue' : UInt8}
    (mixes : Mixes colour red green blue) (mixes' : Mixes colour red' green' blue') :
    red = red' ∧ green = green' ∧ blue = blue' := by
  rw [Mixes] at mixes mixes'
  have green_lt := green.toNat_lt
  have green_lt' := green'.toNat_lt
  have blue_lt := blue.toNat_lt
  have blue_lt' := blue'.toNat_lt
  refine ⟨UInt8.toNat_inj.mp ?_, UInt8.toNat_inj.mp ?_, UInt8.toNat_inj.mp ?_⟩ <;> omega

/-- A colour is what its components mix. -/
theorem exists_of_components? {colour : Int} {block : List UInt8}
    (found : components? colour = some block) :
    ∃ red green blue, block = [red, green, blue] ∧ Mixes colour red green blue := by
  rw [components?] at found
  split_ifs at found with narrow
  cases found
  refine ⟨_, _, _, rfl, ?_⟩
  simp only [Mixes, UInt8.toNat_ofNat']
  omega

end Palette

namespace Window

/-! ## Bytes of a picture -/

section Blocks

variable {α β : Type}

theorem mapM_eq_some_iff {find? : α → Option β} {entries : List α} {found : List β} :
    entries.mapM find? = some found ↔
      List.Forall₂ (fun entry block => find? entry = some block) entries found := by
  induction entries generalizing found with
  | nil =>
      rw [List.mapM_nil, List.forall₂_nil_left_iff]
      exact ⟨fun same => (Option.some.inj same).symm, fun same => congrArg some same.symm⟩
  | cons entry rest induction =>
      rw [List.mapM_cons, List.forall₂_cons_left_iff]
      simp only [← induction, Option.bind_eq_bind, Option.bind_eq_some_iff, Option.pure_def,
        Option.some_inj, @eq_comm _ found, exists_and_left]

/-- The bytes of a list of blocks of three. -/
theorem getElem?_flatMap_of_three {block : α → List β} (three : ∀ entry, (block entry).length = 3)
    (entries : List α) {place part : Nat} (inside : part < 3) :
    (entries.flatMap block)[3 * place + part]? =
      entries[place]?.bind fun entry => (block entry)[part]? := by
  induction entries generalizing place with
  | nil => rfl
  | cons entry rest induction =>
      rw [List.flatMap_cons]
      cases place with
      | zero =>
          rw [List.getElem?_append_left (by rw [three]; omega), Nat.mul_zero, Nat.zero_add]
          rfl
      | succ place =>
          have before : 3 * (place + 1) + part - 3 = 3 * place + part := by omega
          rw [List.getElem?_append_right (by rw [three]; omega), three, before, induction]
          rfl

theorem length_flatMap_of_three {block : α → List β} (three : ∀ entry, (block entry).length = 3)
    (entries : List α) : (entries.flatMap block).length = 3 * entries.length := by
  simp [List.length_flatMap, three, Nat.mul_comm]

end Blocks

section Paint

variable {palette : Palette} {colours : Vector (List UInt8) 4} {frame : Frame}

theorem colours?_eq_some_iff :
    colours? palette = some colours ↔
      List.Forall₂ (fun colour block => Palette.components? colour = some block)
        palette.toList colours.toList := by
  have lists : (colours? palette).map Vector.toList =
      palette.toList.mapM Palette.components? := by
    calc
      _ = Array.toList <$> (Vector.toArray <$> palette.mapM Palette.components?) :=
        (Option.map_map ..).symm
      _ = Array.toList <$> palette.toArray.mapM Palette.components? := by
        rw [Vector.toArray_mapM]
      _ = palette.toList.mapM Palette.components? := Array.toList_mapM
  rw [← mapM_eq_some_iff, ← lists, Option.map_eq_some_iff]
  constructor
  · exact fun found => ⟨colours, found, rfl⟩
  · rintro ⟨others, found, same⟩
    rw [found, Vector.toList_inj.mp same]

/-- A palette of colours of 24 bits can be painted with. -/
theorem exists_colours?_eq (narrow : palette.Narrow) :
    ∃ colours, colours? palette = some colours := by
  refine ⟨palette.map fun colour => (Palette.components? colour).getD [],
    colours?_eq_some_iff.mpr ?_⟩
  rw [Vector.toList_map, List.forall₂_map_right_iff, List.forall₂_same]
  intro colour member
  rw [Palette.components?, if_pos (narrow colour (Vector.mem_toList_iff.mp member))]
  rfl

theorem toList_paint :
    (paint colours frame).toList =
      frame.toList.flatMap fun index => colours.get (Fin.ofNat 4 index) := by
  rw [paint, Array.toList_flatMap]
  rfl

variable (found : colours? palette = some colours)
include found

theorem components?_of_colours? {index : Nat} (inside : index < 4) :
    Palette.components? palette[index] = some colours[index] := by
  have pairs := List.forall₂_iff_get.mp (colours?_eq_some_iff.mp found)
  exact pairs.2 index (by rwa [Vector.length_toList]) (by rwa [Vector.length_toList])

theorem length_of_colours? (index : Fin 4) : (colours.get index).length = 3 := by
  obtain ⟨_, _, _, block, -⟩ :=
    Palette.exists_of_components? (components?_of_colours? found index.isLt)
  exact congrArg List.length block

theorem size_paint : (paint colours frame).size = 3 * frame.size := by
  rw [← Array.length_toList, toList_paint,
    length_flatMap_of_three fun _ => length_of_colours? found _, Array.length_toList]

theorem getElem?_paint {place part : Nat} (inside : part < 3) :
    (paint colours frame)[3 * place + part]? =
      frame[place]?.bind fun index => (colours.get (Fin.ofNat 4 index))[part]? := by
  rw [← Array.getElem?_toList, toList_paint,
    getElem?_flatMap_of_three (fun _ => length_of_colours? found _) _ inside,
    Array.getElem?_toList]

/-- The bytes hold the picture: for each pixel the components of its colour, and nothing else. -/
structure Painted (palette : Palette) (frame : Frame) (bytes : Array UInt8) : Prop where
  /-- Number of bytes. -/
  size : bytes.size = 3 * frame.size
  /-- Red, green and blue of each pixel. -/
  pixel : ∀ place index, frame[place]? = some index → ∃ red green blue,
    bytes[3 * place]? = some red ∧ bytes[3 * place + 1]? = some green ∧
      bytes[3 * place + 2]? = some blue ∧ Palette.Mixes palette[index % 4] red green blue

theorem painted_paint : Painted palette frame (paint colours frame) where
  size := size_paint found
  pixel place index shown := by
    obtain ⟨red, green, blue, block, mixes⟩ := Palette.exists_of_components?
      (components?_of_colours? found (Nat.mod_lt index (by decide)))
    have byte (part : Nat) (inside : part < 3) :
        (paint colours frame)[3 * place + part]? = [red, green, blue][part]? := by
      rw [getElem?_paint found inside, shown, ← block]
      rfl
    exact ⟨red, green, blue, byte 0 (by decide), byte 1 (by decide), byte 2 (by decide),
      mixes⟩

end Paint

/-! ## One picture after the other -/

/-- There is a buffer for pictures of that many pixels, whatever it holds. -/
def Expects (window : Window) (pixels : Nat) : Prop :=
  ∃ bytes, window.buffer = some bytes ∧ bytes.size = 3 * pixels

/-- What may happen to a window while it expects pictures of one size. -/
inductive Showing where
  /-- A picture comes. -/
  | picture (frame : Frame)
  /-- The palette after the current one comes into use. -/
  | nextPalette
  /-- The palette before the current one comes into use. -/
  | previousPalette
  /-- The buffer is shown. -/
  | refresh

/-- The window afterwards, whether or not it was refused. -/
def handle (window : Window) : Showing → Window
  | .picture frame => (window.take frame).1
  | .nextPalette => { window with viewer := window.viewer.next }
  | .previousPalette => { window with viewer := window.viewer.previous }
  | .refresh => window.refresh.1

variable {window : Window} {pixels : Nat}

/-- A picture of the size that is expected replaces all of the buffer. -/
theorem take_of_expects {frame : Frame} {colours : Vector (List UInt8) 4}
    (expects : window.Expects frame.size) (found : colours? window.viewer.palette = some colours) :
    window.take frame =
      ({ window with
          viewer := window.viewer.take frame
          buffer := some (paint colours frame) }, none) := by
  obtain ⟨bytes, buffer, size⟩ := expects
  rw [take]
  simp only
  rw [show (window.viewer.take frame).palette = window.viewer.palette from rfl, found]
  simp only [buffer]
  rw [size, size_paint found, Array.extract_empty_of_stop_le_start (Nat.le_refl _),
    Array.append_empty]

/-- No smaller picture changes the size of the buffer. -/
theorem Expects.take {frame : Frame} (expects : window.Expects pixels)
    (fits : frame.size ≤ pixels) : (window.take frame).1.Expects pixels := by
  obtain ⟨bytes, buffer, size⟩ := expects
  rw [Window.take]
  simp only
  rcases found : colours? (window.viewer.take frame).palette with _ | colours
  · exact ⟨bytes, buffer, size⟩
  · simp only [buffer]
    refine ⟨_, rfl, ?_⟩
    rw [Array.size_append, Array.size_extract, size_paint found]
    omega

theorem buffer_refresh (window : Window) : window.refresh.1.buffer = window.buffer := by
  rw [refresh]
  split
  · split <;> rfl
  · rfl

theorem Expects.handle {showing : Showing} (expects : window.Expects pixels)
    (fits : ∀ frame, showing = .picture frame → frame.size ≤ pixels) :
    (window.handle showing).Expects pixels := by
  cases showing with
  | picture frame => exact expects.take (fits frame rfl)
  | nextPalette | previousPalette => exact expects
  | refresh =>
      rw [Window.handle, Expects, buffer_refresh]
      exact expects

/-- The window after all that happens to it. -/
def handleAll (window : Window) (past : List Showing) : Window := past.foldl handle window

theorem Expects.handleAll {past : List Showing} (expects : window.Expects pixels)
    (fits : ∀ frame, .picture frame ∈ past → frame.size ≤ pixels) :
    (window.handleAll past).Expects pixels := by
  induction past generalizing window with
  | nil => exact expects
  | cons showing rest induction =>
      refine induction (expects.handle fun frame shown => fits frame ?_)
        fun frame member => fits frame (List.mem_cons_of_mem showing member)
      exact shown ▸ List.mem_cons_self

/-! ## Resolutions -/

/-- The window system opens the window for pictures of the given size. -/
def Opens (window : Window) (width height : Int) : Prop :=
  ∃ surface, window.system.setMode window.surface
    (scaledSize window.viewer.scale width height) = .ok surface

section Resize

variable {width height : Nat} (wide : 0 < width) (high : 0 < height)
include wide high

/-- A resolution is accepted if the window system opens a window for it, and refused for the reason
of the system otherwise. -/
theorem resize_eq (window : Window) :
    let resized : Window :=
      { window with
        viewer := window.viewer.resize width height
        size := some (scaledSize window.viewer.scale width height) }
    window.resize width height =
      match window.system.setMode window.surface
        (scaledSize window.viewer.scale width height) with
      | .error error => (resized, some error)
      | .ok surface =>
          ({ resized with
              surface := some surface
              buffer := some (Array.replicate (3 * (width * height)) 0) }, none) := by
  have nonneg : ¬ (width : Int) * height < 0 :=
    Int.not_lt.mpr (Int.mul_nonneg (Int.natCast_nonneg _) (Int.natCast_nonneg _))
  have count : ((width : Int) * height * 3).toNat = 3 * (width * height) := by
    rw [← Nat.cast_mul]
    omega
  rw [resize, if_neg (by omega)]
  simp only [if_neg nonneg, count]
  rfl

theorem resize_accepted_iff (window : Window) :
    (window.resize width height).2 = none ↔ window.Opens width height := by
  rw [window.resize_eq wide high, Opens]
  rcases window.system.setMode window.surface (scaledSize window.viewer.scale width height) with
    error | surface
  · exact iff_of_false nofun nofun
  · exact iff_of_true rfl ⟨surface, rfl⟩

/-- A window that has been given a resolution expects pictures of this size. -/
theorem Opens.expects (opens : window.Opens width height) :
    (window.resize width height).1.Expects (width * height) := by
  obtain ⟨surface, opened⟩ := opens
  rw [window.resize_eq wide high, opened]
  exact ⟨_, rfl, Array.size_replicate⟩

end Resize

end Window

/-! ## Pictures of screens -/

namespace Screen.Shaped

variable {screen : Screen} {width height : Nat} (shaped : screen.Shaped width height 2)
include shaped

theorem size_colours : screen.colours.size = width * height := by
  rw [colours, Array.size_ofFn, (shaped.planes_sized 0 (by decide)).cells]

theorem isLit_eq {place number : Nat} (inside : place < width * height) (existing : number < 2) :
    screen.isLit place number = (screen.plane number).lit place := by
  have addressed : place < (screen.plane number).size := by
    rwa [(shaped.planes_sized number existing).addresses]
  rw [isLit, decide_eq_true addressed, Bool.or_true, Bool.true_and]
  rfl

/-- The colour of a pixel counts the first plane once and the second one twice. -/
theorem getElem?_colours {place : Nat} (inside : place < width * height) :
    screen.colours[place]? =
      some (((screen.plane 0).lit place).toNat + 2 * ((screen.plane 1).lit place).toNat) := by
  have first : screen.isLit place 0 = (screen.plane 0).lit place :=
    isLit_eq shaped inside (by decide)
  have second : screen.isLit place 1 = (screen.plane 1).lit place :=
    isLit_eq shaped inside (by decide)
  have there : place < (screen.plane 0).cells.size := by
    rwa [(shaped.planes_sized 0 (by decide)).cells]
  have planes := shaped.planes_size
  rw [colours, Array.getElem?_ofFn, dif_pos there]
  simp only
  -- The loop unfolds only over a literal number of planes, which no rewriting can put there.
  generalize screen.planes.size = count at planes ⊢
  subst planes
  simp only [Nat.fold, first, second]
  cases (screen.plane 0).lit place <;> cases (screen.plane 1).lit place <;> rfl

theorem plane?_eq {number : Nat} (existing : number < 2) :
    screen.plane? number = some (screen.plane number) := by
  have inside : number < screen.planes.size := by rwa [shaped.planes_size]
  rw [plane?, Slice.index?_of_inside (Int.natCast_nonneg _) (Int.ofNat_lt.mpr inside), plane_eq,
    Int.toNat_natCast, Array.getElem?_eq_getElem inside]
  exact Array.getElem?_eq_getElem inside

/-- Each pixel of a screen gets the colour that the palette in use has for what its two planes show
there, and three bytes hold this colour.  This holds for every window that expects pictures of the
size of the screen, whatever its buffer holds and whatever pictures and palettes came before.  A
window that has been given the resolution of the screen is one, on every window system and at every
scale, and a resolution is accepted whenever the window system opens a window for it. -/
theorem take_colours (wide : 0 < width) (high : 0 < height) :
    (∃ first second, screen.plane? 0 = some first ∧ screen.plane? 1 = some second ∧
      screen.colours.size = width * height ∧
      ∀ place < width * height, screen.colours[place]? =
        some ((first.lit place).toNat + 2 * (second.lit place).toNat)) ∧
    (∀ window : Window,
      ((window.resize width height).2 = none ↔ window.Opens width height) ∧
      (window.Opens width height → (window.resize width height).1.Expects (width * height))) ∧
    ∀ (window : Window) (past : List Window.Showing), window.Expects (width * height) →
      (∀ frame, .picture frame ∈ past → frame.size ≤ width * height) →
      let before := window.handleAll past
      let palette := before.viewer.palette
      palette.Narrow →
      ∃ after bytes, before.take screen.colours = (after, none) ∧ after.buffer = some bytes ∧
        bytes.size = 3 * (width * height) ∧ Window.Painted palette screen.colours bytes ∧
        ∀ other : Window, other.Expects (width * height) → other.viewer.palette = palette →
          (other.take screen.colours).1.buffer = some bytes := by
  have size := size_colours shaped
  refine ⟨⟨_, _, plane?_eq shaped (by decide), plane?_eq shaped (by decide), size,
    fun _ inside => getElem?_colours shaped inside⟩,
    fun window => ⟨window.resize_accepted_iff wide high, fun opens => opens.expects wide high⟩, ?_⟩
  intro window past expects small before palette narrow
  obtain ⟨colours, found⟩ := Window.exists_colours?_eq narrow
  have taken : ∀ other : Window, other.Expects (width * height) → other.viewer.palette = palette →
      other.take screen.colours =
        ({ other with
            viewer := other.viewer.take screen.colours
            buffer := some (Window.paint colours screen.colours) }, none) := by
    intro other expects same
    exact Window.take_of_expects (size ▸ expects) (same ▸ found)
  refine ⟨_, _, taken before (expects.handleAll small) rfl, rfl, ?_, Window.painted_paint found, ?_⟩
  · rw [Window.size_paint found, size]
  · intro other expects same
    rw [taken other expects same]

omit shaped in
/-- After a picture in another palette, a window of two pixels shows one of both planes in dark grey
and one of the second plane in light grey. -/
theorem take_colours_of_two_pixels :
    let screen : Screen :=
      { Screen.blank 2 1 2 false with planes := #[⟨#[true, false], 2⟩, ⟨#[true, true], 2⟩] }
    let viewer : Viewer := ⟨8, Palette.standard, ⟨0, by decide⟩, 0, 0, none⟩
    let window := ((Window.ofViewer .offscreen viewer).resize 2 1).1
    (Window.ofViewer .offscreen viewer).Opens 2 1 ∧ ∃ after bytes,
      (window.handleAll [.picture #[1, 0], .nextPalette]).take screen.colours = (after, none) ∧
        after.buffer = some bytes ∧ bytes.size = 6 ∧
        bytes[0]? = some 0x55 ∧ bytes[5]? = some 0xAA := by
  intro screen viewer window
  have shaped : screen.Shaped 2 1 2 := {
    width_eq := rfl
    height_eq := rfl
    planes_size := rfl
    planes_sized := fun
      | 0, _ => ⟨rfl, rfl⟩
      | 1, _ => ⟨rfl, rfl⟩ }
  obtain ⟨-, resized, taken⟩ := take_colours shaped (by decide) (by decide)
  have opens : (Window.ofViewer .offscreen viewer).Opens 2 1 := ⟨_, rfl⟩
  have expects : window.Expects (2 * 1) := (resized (Window.ofViewer .offscreen viewer)).2 opens
  have selected : (window.handleAll [.picture #[1, 0], .nextPalette]).viewer.palette =
      #v[0x000000, 0xFFFFFF, 0xAAAAAA, 0x555555] := by
    decide +kernel
  have narrow : (window.handleAll [.picture #[1, 0], .nextPalette]).viewer.palette.Narrow := by
    rw [selected]
    intro colour member
    simp at member
    omega
  obtain ⟨after, bytes, taken, held, size, picture, -⟩ :=
    taken window [.picture #[1, 0], .nextPalette] expects (by simp) narrow
  rw [selected] at picture
  refine ⟨opens, after, bytes, taken, held, size, ?_, ?_⟩
  · obtain ⟨red, green, blue, byte, -, -, mixes⟩ := picture.pixel 0 3 (by decide)
    have dark : Palette.Mixes 0x555555 0x55 0x55 0x55 := rfl
    rw [byte, (mixes.unique dark).1]
  · obtain ⟨red, green, blue, -, -, byte, mixes⟩ := picture.pixel 1 2 (by decide)
    have light : Palette.Mixes 0xAAAAAA 0xAA 0xAA 0xAA := rfl
    rw [byte, (mixes.unique light).2.2]

end Screen.Shaped

end Chip8
