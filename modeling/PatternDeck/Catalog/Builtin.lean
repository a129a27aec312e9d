import PatternDeck.Catalog.Basic

/-!
The catalog that a deck has unless it is given another.
-/
namespace PatternDeck.Catalog

def builtinEntries : List Entry :=
  [
   ⟨"speed", "Speed", "Time", 0.1, 4, 1, "Speed up pattern playback",
    ".fast($speed)"⟩,
   ⟨"slowness", "Slowness", "Time", 0.25, 4, 1, "Slow down pattern playback",
    ".slow($slowness)"⟩,
   ⟨"timing", "Timing Shift", "Time", -0.5, 0.5, 0, "Shift pattern timing early/late",
    ".early($timing)"⟩,
   ⟨"cutoff", "LP Cutoff", "Filter", 0, 1, 0.5, "Low-pass filter cutoff frequency",
    ".lpf($cutoff * 10000)"⟩,
   ⟨"resonance", "LP Resonance", "Filter", 0, 10, 1, "Low-pass filter resonance",
    ".lpq($resonance)"⟩,
   ⟨"hcutoff", "HP Cutoff", "Filter", 0, 1, 0.5, "High-pass filter cutoff frequency",
    ".hpf($hcutoff * 10000)"⟩,
   ⟨"hresonance", "HP Resonance", "Filter", 0, 10, 1, "High-pass filter resonance",
    ".hpq($hresonance)"⟩,
   ⟨"bandfreq", "BP Frequency", "Filter", 0, 1, 0.5, "Band-pass filter center frequency",
    ".bandf($bandfreq * 10000)"⟩,
   ⟨"bandq", "BP Q-Factor", "Filter", 0.1, 10, 1, "Band-pass filter Q-factor",
    ".bandq($bandq)"⟩,
   ⟨"volume", "Volume", "Dynamics", 0, 1, 0.7, "Volume/gain level",
    ".gain($volume)"⟩,
   ⟨"velocity", "Velocity", "Dynamics", 0, 1, 0.8, "Note velocity (MIDI-style amplitude)",
    ".velocity($velocity)"⟩,
   ⟨"pan", "Pan", "Spatial", -1, 1, 0, "Stereo pan position (left to right)",
    ".pan($pan)"⟩,
   ⟨"shape", "Wave Shape", "Distortion", 0, 1, 0, "Wave shaping distortion amount",
    ".shape($shape)"⟩,
   ⟨"crush", "Bit Crush", "Distortion", 0, 16, 8, "Bit depth reduction",
    ".crush($crush)"⟩,
   ⟨"coarse", "Sample Rate", "Distortion", 1, 32, 1, "Sample rate reduction",
    ".coarse($coarse)"⟩,
   ⟨"delay", "Delay Level", "Delay", 0, 1, 0.3, "Delay wet signal level",
    ".delay($delay)"⟩,
   ⟨"delaytime", "Delay Time", "Delay", 0, 1, 0.25, "Delay time duration",
    ".delaytime($delaytime)"⟩,
   ⟨"delayfeedback", "Delay Feedback", "Delay", 0, 1, 0.5, "Delay feedback/recirculation amount",
    ".delayfeedback($delayfeedback)"⟩,
   ⟨"room", "Reverb Level", "Reverb", 0, 1, 0.3, "Reverb wet signal level",
    ".room($room)"⟩,
   ⟨"roomsize", "Room Size", "Reverb", 0, 1, 0.5, "Reverb room/space size",
    ".size($roomsize)"⟩,
   ⟨"vowel", "Vowel", "Modulation", 0, 4, 0, "Formant filter vowel (0=a, 1=e, 2=i, 3=o, 4=u)",
    ".vowel([\"a\", \"e\", \"i\", \"o\", \"u\"][$vowel])"⟩,
   ⟨"attack", "Attack", "Envelope", 0, 1, 0.01, "Envelope attack time",
    ".attack($attack)"⟩,
   ⟨"decay", "Decay", "Envelope", 0, 1, 0.1, "Envelope decay time",
    ".decay($decay)"⟩,
   ⟨"sustain", "Sustain", "Envelope", 0, 1, 0.5, "Envelope sustain level",
    ".sustain($sustain)"⟩,
   ⟨"release", "Release", "Envelope", 0, 1, 0.1, "Envelope release time",
    ".release($release)"⟩,
   ⟨"legato", "Legato", "Rhythm", 0.1, 2, 1, "Note duration multiplier",
    ".legato($legato)"⟩]

def builtin : Catalog where
  entries := builtinEntries
  distinct := by decide +kernel
  usable := by decide +kernel

end PatternDeck.Catalog
