import PatternDeck.Slot

/-!
The built-in library: one program for each grid position. The grid's rows from the top are melodies
(32 to 39), drums and bass (24 to 31), percussion (16 to 23), textures (8 to 15), and effects and
combinations (0 to 7).
-/
namespace PatternDeck.Library.Builtin

def name : String := "Default Library"

def version : String := "1.0.0"

structure Pattern where
  id : Int
  code : String
  name : String
  category : String
  color : Int

def patterns : List Pattern :=
  [
   ⟨32, "note(\"c4 e4 g4 c5\").s(\"casio\")",
    "C Major Chord", "melody", Led.green⟩,
   ⟨33, "note(\"a3 c4 e4 a4\").s(\"gtr\")",
    "A Minor Chord", "melody", Led.green⟩,
   ⟨34, "note(\"c4 d4 e4 g4 a4 g4 e4 d4\").slow(2).s(\"sine\")",
    "C Major Scale", "melody", Led.green⟩,
   ⟨35, "note(\"c4 e4 g4 b4 c5\").fast($speed).s(\"triangle\")",
    "Arpeggio Up", "melody", Led.green⟩,
   ⟨36, "note(\"<c4 e4 g4>*4\").s(\"sawtooth\").lpf($cutoff * 2000)",
    "Filtered Chord", "melody", Led.green⟩,
   ⟨37, "note(\"c5 c5 g4 g4 a4 a4 g4\").slow(2).s(\"arpy\")",
    "Twinkle Melody", "melody", Led.green⟩,
   ⟨38, "note(\"c4 eb4 g4\").s(\"casio\").fast(2)",
    "C Minor Fast", "melody", Led.green⟩,
   ⟨39, "note(\"c4 d4 e4 f4 g4 a4 b4 c5\").fast(8).s(\"sine\")",
    "Fast Scale Run", "melody", Led.green⟩,
   ⟨24, "s(\"bd\").fast(2)",
    "Kick Drum x2", "drums", Led.red⟩,
   ⟨25, "s(\"bd sd\")",
    "Kick-Snare", "drums", Led.red⟩,
   ⟨26, "s(\"bd*2 sd\")",
    "Double Kick", "drums", Led.red⟩,
   ⟨27, "s(\"bd ~ sd ~\")",
    "Four on Floor", "drums", Led.red⟩,
   ⟨28, "note(\"c2 c2 eb2 g2\").s(\"sawtooth\").lpf(800)",
    "Bass Line", "bass", Led.yellow⟩,
   ⟨29, "note(\"c2\").s(\"sawtooth\").fast(4)",
    "Bass Pulse", "bass", Led.yellow⟩,
   ⟨30, "note(\"c2 ~ eb2 ~\").s(\"triangle\")",
    "Sub Bass", "bass", Led.yellow⟩,
   ⟨31, "note(\"c2 g1 c2 g1\").s(\"sawtooth\").lpf(400)",
    "Deep Bass", "bass", Led.yellow⟩,
   ⟨16, "s(\"hh*8\").gain($volume)",
    "Hi-Hat 8th", "drums", Led.red⟩,
   ⟨17, "s(\"hh*16\").fast(0.5)",
    "Hi-Hat 16th", "drums", Led.red⟩,
   ⟨18, "s(\"cp, rm*4\")",
    "Clap + Rim", "drums", Led.red⟩,
   ⟨19, "s(\"~ cp\")",
    "Clap on 2", "drums", Led.red⟩,
   ⟨20, "s(\"perc*4\").fast(2)",
    "Percussion Loop", "drums", Led.red⟩,
   ⟨21, "s(\"oh ~ oh ~\")",
    "Open Hi-Hat", "drums", Led.red⟩,
   ⟨22, "s(\"rm*4\")",
    "Rim Shots", "drums", Led.red⟩,
   ⟨23, "s(\"tabla*8\").fast(2)",
    "Fast Tabla", "drums", Led.red⟩,
   ⟨8, "sound(\"sine\").note(\"c3\").lpf(600)",
    "Filtered Sine", "texture", Led.green⟩,
   ⟨9, "sound(\"sawtooth\").note(\"<c3 e3 g3>\").fast(2)",
    "Saw Chord", "texture", Led.green⟩,
   ⟨10, "sound(\"square\").note(\"c4 e4 g4\").slow(2)",
    "Square Wave", "texture", Led.green⟩,
   ⟨11, "sound(\"triangle\").note(\"c4\").fast(8).lpf(1200)",
    "Triangle Pulse", "texture", Led.green⟩,
   ⟨12, "s(\"pad\").note(\"c3 e3 g3\").slow(4).room($reverb)",
    "Pad Slow", "texture", Led.green⟩,
   ⟨13, "s(\"space\").slow(2)",
    "Space Ambient", "texture", Led.green⟩,
   ⟨14, "s(\"wind\").fast(0.5)",
    "Wind Texture", "texture", Led.green⟩,
   ⟨15, "s(\"noise\").lpf(400).hpf(200)",
    "Filtered Noise", "texture", Led.green⟩,
   ⟨0, "s(\"bd sd\").fast(2).rev()",
    "Reversed Beat", "effect", Led.yellow⟩,
   ⟨1, "note(\"c4 e4 g4\").s(\"arpy\").jux(rev).pan($pan)",
    "Stereo Reverse", "effect", Led.yellow⟩,
   ⟨2, "s(\"bd hh sd hh\").fast(2)",
    "Full Beat", "combo", Led.red⟩,
   ⟨3, "note(\"c2 c2 eb2 g2\").s(\"sawtooth\").lpf(800)",
    "Bass + Filter", "combo", Led.yellow⟩,
   ⟨4, "s(\"bd*4, hh*8, ~ cp\")",
    "Layered Drums", "combo", Led.red⟩,
   ⟨5, "note(\"<c4 e4 g4 c5>*4\").s(\"sine\").lpf(1200)",
    "Melodic Pulse", "combo", Led.green⟩,
   ⟨6, "s(\"bd sd, hh*16\").fast(2)",
    "Breakbeat", "combo", Led.red⟩,
   ⟨7, "note(\"c4 d4 e4 g4\").s(\"gtr\").slow(4)",
    "Slow Melody", "melody", Led.green⟩]

def slots : List Slot :=
  patterns.map fun pattern =>
    { id := pattern.id, code := pattern.code, name := pattern.name, category := pattern.category,
      color := pattern.color }

end PatternDeck.Library.Builtin
