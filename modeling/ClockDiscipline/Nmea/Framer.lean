import ClockDiscipline.Journal
import ClockDiscipline.Nmea.Sentence
import ClockDiscipline.Queue.Ring

/-!
Cutting the receiver's bytes into sentences. The framer keeps the line that has not ended
yet; lines that turn out not to be sentences are dropped, which is common while a receiver
starts.
-/

namespace ClockDiscipline.Nmea

/-- A line with this many bytes and no line feed is given up before the next byte. -/
def maxLineLength : Nat := maxSentenceLength - 2

structure Framer where
  line : List UInt8
  discarded : Nat
  length_le : line.length ≤ maxLineLength

namespace Framer

def new : Framer := ⟨[], 0, Nat.zero_le _⟩

def reset (framer : Framer) : Framer := ⟨[], framer.discarded, Nat.zero_le _⟩

def discard (framer : Framer) : Framer := ⟨[], framer.discarded + 1, Nat.zero_le _⟩

/-! ## One byte -/

def isFull (framer : Framer) : Bool := maxLineLength ≤ framer.line.length

/-- A dollar sign inside garbage starts over; inside a sentence it is an ordinary byte. -/
def restartsAt (framer : Framer) (byte : UInt8) : Bool :=
  byte == dollar && !framer.line.isEmpty && framer.line.head? != some dollar

structure Pushed where
  framer : Framer
  sentence : Option Sentence
  entries : List Entry

def clear (framer : Framer) (byte : UInt8) : Framer × List Entry :=
  if framer.isFull then
    (framer.discard, [.debug .framing
      s!"Invalid GPS string received (no terminator in {framer.line.length} bytes)"])
  else if framer.restartsAt byte then
    (framer.discard, [.debug .framing
      s!"Discarding {framer.line.length} bytes of garbage before '$'"])
  else
    (framer, [])

theorem length_line_clear_lt (framer : Framer) (byte : UInt8) :
    (framer.clear byte).1.line.length < maxLineLength := by
  unfold clear
  split
  · simp [discard, maxLineLength, maxSentenceLength]
  · rename_i notFull
    split
    · simp [discard, maxLineLength, maxSentenceLength]
    · simpa [isFull] using notFull

/-- Take one byte. A line feed ends the line, which is a sentence or one more discarded
line. -/
def push (framer : Framer) (byte : UInt8) : Pushed :=
  let cleared := framer.clear byte
  let extended : Framer :=
    ⟨cleared.1.line ++ [byte], cleared.1.discarded, by
      simpa using Nat.succ_le_of_lt (framer.length_line_clear_lt byte)⟩
  if byte = lineFeed then
    match Sentence.ofBytes? extended.line with
    | some sentence => ⟨extended.reset, some sentence, cleared.2⟩
    | none =>
        ⟨extended.discard, none,
          cleared.2 ++ [.debug .framing "Invalid GPS string received (missing '$')"]⟩
  else
    ⟨extended, none, cleared.2⟩

end Framer

/-! ## Assembling a queue -/

structure Assembly where
  framer : Framer
  sentences : Ring Sentence
  assembled : Nat
  journal : Array Entry

namespace Assembly

/-- Take one byte. A sentence that finds the queue full empties it and is lost. -/
def accept (assembly : Assembly) (byte : UInt8) : Assembly :=
  let pushed := assembly.framer.push byte
  let journal := pushed.entries.foldl Array.push assembly.journal
  match pushed.sentence with
  | none => { assembly with framer := pushed.framer, journal }
  | some sentence =>
      match assembly.sentences.push sentence with
      | (.ok (), sentences) =>
          ⟨pushed.framer, sentences, assembly.assembled + 1, journal⟩
      | (.error full, sentences) =>
          ⟨pushed.framer, sentences, assembly.assembled,
            journal.push (.warn .framing s!"GPS sentence queue flushed: {full.message}")⟩

end Assembly

def Framer.drain (framer : Framer) (bytes : Ring UInt8) (sentences : Ring Sentence) :
    Ring UInt8 × Assembly :=
  let (items, emptied) := bytes.dequeue bytes.count
  (emptied, items.foldl Assembly.accept ⟨framer, sentences, 0, #[]⟩)

end ClockDiscipline.Nmea
