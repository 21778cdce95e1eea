import DecisionCenter.Data.Windows
import DecisionCenter.Py.Whole

/-!
# Chunking

`chunk_text` (`apps/edr/retrieval/chunking.py`): a text with more tokens than one chunk may have is
cut into overlapping windows of tokens, or of characters if there is no tokeniser.

The two loops are one, `Windows.loop`, at different sizes: the fallback takes four characters for a
token and has no limit below which a text stays whole. Their windows have a name each
(`tokenWindows`, `charWindows`), since what becomes of a window afterwards, decoding and the
trimming of `_normalize_chunks`, need not give the text back: blanks at the ends of a window go, and
a chunk of blanks goes altogether.

A tokeniser comes with the one property that is asked of it, that decoding gives back what was
encoded; with a lossy one the windows would cover the tokens and not the text. The parameters carry
the two inequalities without which the loop need not come to an end. The number of rounds is an
argument, and `chunkText_covers` says how many suffice: one for each token, or character.
-/

namespace DecisionCenter

open Py Windows

/-- A tokeniser, which gives back the text that it has encoded. -/
structure Encoding (Token : Type) where
  encode : String → List Token
  decode : List Token → String
  decode_encode : ∀ text, decode (encode text) = text

/-- The parameters of `chunk_text`. -/
structure ChunkSizes where
  targetTokens : ℕ := 650
  overlapTokens : ℕ := 125
  hardMaxTokens : ℕ := 1024
  overlap_lt_target : overlapTokens < targetTokens := by decide
  target_le_hardMax : targetTokens ≤ hardMaxTokens := by decide

section Chunks

variable [Text] {Token : Type}

/-- `_normalize_chunks` -/
def normalizeChunks (chunks : List String) : List String :=
  (chunks.filter (strip · ≠ "")).map fun chunk => join " " (splitWords chunk)

/-- The windows of characters, at four characters a token; `none` if the rounds do not suffice. -/
def charWindows (sizes : ChunkSizes) (rounds : ℕ) (text : String) : Option (List (List Char)) :=
  loop text.toList (sizes.targetTokens * 4) (sizes.overlapTokens * 4) rounds 0

/-- `_char_fallback_chunk` -/
def charFallbackChunk (sizes : ChunkSizes) (rounds : ℕ) (text : String) : Option (List String) :=
  (charWindows sizes rounds text).map fun chunks => normalizeChunks (chunks.map String.ofList)

/-- The windows of tokens; `none` if the rounds do not suffice. -/
def tokenWindows (e : Encoding Token) (sizes : ChunkSizes) (rounds : ℕ) (text : String) :
    Option (List (List Token)) :=
  loop (e.encode text) sizes.targetTokens sizes.overlapTokens rounds 0

/-- `chunk_text`; `none` if the rounds do not suffice. -/
def chunkText (encoding : Option (Encoding Token)) (sizes : ChunkSizes) (rounds : ℕ)
    (text : String) : Option (List String) :=
  match encoding with
  | none => charFallbackChunk sizes rounds text
  | some e =>
    if (e.encode text).length ≤ sizes.hardMaxTokens then some [text]
    else (tokenWindows e sizes rounds text).map fun chunks => normalizeChunks (chunks.map e.decode)

/-- A text that fits is one chunk. Of a longer one the loop over its tokens comes to an end, and its
windows cover the tokens, and so the text; the chunks are these windows, decoded and trimmed.
Without a tokeniser the same holds of every text and its characters. -/
theorem chunkText_covers (e : Encoding Token) (sizes : ChunkSizes) (text : String) :
    ((e.encode text).length ≤ sizes.hardMaxTokens →
      ∀ rounds, chunkText (some e) sizes rounds text = some [text]) ∧
    (sizes.hardMaxTokens < (e.encode text).length →
      ∃ windows, Windowing sizes.targetTokens sizes.overlapTokens (e.encode text) windows ∧
        e.decode (Windows.join sizes.overlapTokens windows) = text ∧
        ∀ rounds, (e.encode text).length ≤ rounds →
          tokenWindows e sizes rounds text = some windows ∧
            chunkText (some e) sizes rounds text =
              some (normalizeChunks (windows.map e.decode))) ∧
    ∃ windows, Windowing (sizes.targetTokens * 4) (sizes.overlapTokens * 4) text.toList windows ∧
      ∀ rounds, text.length ≤ rounds →
        charWindows sizes rounds text = some windows ∧
          chunkText (none : Option (Encoding Token)) sizes rounds text =
            some (normalizeChunks (windows.map String.ofList)) := by
  refine ⟨fun hshort rounds => if_pos hshort, fun hlong => ?_, ?_⟩
  · obtain ⟨windows, hwindows, hloop⟩ :=
      exists_windowing (e.encode text) sizes.overlap_lt_target
    refine ⟨windows, hwindows, ?_, fun rounds hrounds => ?_⟩
    · rw [hwindows.joins, e.decode_encode]
    · have htokens : tokenWindows e sizes rounds text = some windows := hloop rounds hrounds
      refine ⟨htokens, ?_⟩
      rw [chunkText, if_neg hlong.not_ge, htokens]
      rfl
  · have hchars : sizes.overlapTokens * 4 < sizes.targetTokens * 4 :=
      Nat.mul_lt_mul_of_pos_right sizes.overlap_lt_target (by decide)
    obtain ⟨windows, hwindows, hloop⟩ := exists_windowing text.toList hchars
    refine ⟨windows, hwindows, fun rounds hrounds => ?_⟩
    have hcharacters : charWindows sizes rounds text = some windows := hloop rounds hrounds
    refine ⟨hcharacters, ?_⟩
    rw [chunkText, charFallbackChunk, hcharacters]
    rfl

end Chunks

section Whole

open Py.Whole

/-- A tokeniser for which every character is a token. -/
def characters : Encoding Char where
  encode := String.toList
  decode := String.ofList
  decode_encode _ := String.ofList_toList

/-- Chunks of four tokens, one of them shared, and up to five in a text that stays whole. -/
def smallSizes : ChunkSizes where
  targetTokens := 4
  overlapTokens := 1
  hardMaxTokens := 5

example : tokenWindows characters smallSizes 8 "Concrete" =
    some ["Conc".toList, "cret".toList, "te".toList] := by decide

/-- Eight characters are too many for one chunk, and are covered by windows of four. -/
theorem chunkText_concrete :
    ∃ windows, Windowing 4 1 "Concrete".toList windows ∧
      String.ofList (Windows.join 1 windows) = "Concrete" ∧
        ∀ rounds, 8 ≤ rounds → tokenWindows characters smallSizes rounds "Concrete" = some windows ∧
          chunkText (some characters) smallSizes rounds "Concrete" =
            some (normalizeChunks (windows.map String.ofList)) :=
  (chunkText_covers characters smallSizes "Concrete").2.1 (by decide)

end Whole

end DecisionCenter
