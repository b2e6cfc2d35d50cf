import RtlFlow.Proofs.Text.Lines
import RtlFlow.Proofs.Text.Utf8
import RtlFlow.Tool.Reader
import Mathlib.Data.List.DropRight

/-! # The text that is kept of a stream

The reader of a stream decodes what a process writes line by line, as it arrives. What it keeps
depends on the bytes alone, however they are cut into reads (`Launch.gather_eq`), and the lines of
the bytes are the lines of their text (`Launch.map_lines_decode`): no byte of ASCII stands inside a
character, so no character runs over the end of a line. -/

namespace RtlFlow.Launch

open Text (decode encode linesOf dropReturn)

variable {x line buffer bytes rest : List UInt8} {reads : Reads}

/-! ## Lines of bytes -/

/-- **The lines of bytes**, without their line feeds. Behind the last line feed stands a line only
when there is a byte. -/
def byteLines (bytes : List UInt8) : List (List UInt8) :=
  let pieces := bytes.splitOn lineFeed
  if pieces.getLast? = some [] then pieces.dropLast else pieces

/-- What holds of bytes without a line feed, and of bytes when it holds behind their first line,
holds of all bytes. -/
theorem bytes_induction {P : List UInt8 → Prop} (last : ∀ x, lineFeed ∉ x → P x)
    (next : ∀ x rest, lineFeed ∉ x → P rest → P (x ++ lineFeed :: rest)) (bytes : List UInt8) :
    P bytes := by
  induction hlength : bytes.length using Nat.strong_induction_on generalizing bytes with
  | _ n ih =>
    by_cases hmem : lineFeed ∈ bytes
    · obtain ⟨x, rest, rfl, hx⟩ := List.eq_append_cons_of_mem hmem
      have hshorter : rest.length < n := by
        rw [← hlength, List.length_append, List.length_cons]
        omega
      exact next x rest hx (ih _ hshorter rest rfl)
    · exact last bytes hmem

theorem splitOn_append (h : lineFeed ∉ x) (rest : List UInt8) :
    (x ++ lineFeed :: rest).splitOn lineFeed = x :: rest.splitOn lineFeed :=
  List.splitOnP_append_cons_of_forall_mem
    (fun b hb => by simpa using fun heq : b = lineFeed => h (heq ▸ hb)) lineFeed (by simp) rest

/-- **A line with its line feed** is the first one. -/
theorem byteLines_append (h : lineFeed ∉ x) (rest : List UInt8) :
    byteLines (x ++ lineFeed :: rest) = x :: byteLines rest := by
  have hne : rest.splitOn lineFeed ≠ [] := List.splitOn_ne_nil _ _
  unfold byteLines
  dsimp only
  rw [splitOn_append h, List.getLast?_cons_of_ne_nil hne, List.dropLast_cons_of_ne_nil hne]
  split <;> rfl

/-- Bytes without a line feed are one line, or none when there are no bytes. -/
theorem byteLines_of_notMem (h : lineFeed ∉ x) :
    byteLines x = if x.isEmpty then [] else [x] := by
  unfold byteLines
  rw [List.splitOn_eq_singleton h]
  cases x <;> rfl

/-- No line holds a line feed. -/
theorem notMem_of_mem_byteLines (h : line ∈ byteLines bytes) : lineFeed ∉ line := by
  induction bytes using bytes_induction with
  | last x hx =>
    rw [byteLines_of_notMem hx] at h
    split at h
    · cases h
    · rwa [List.mem_singleton.mp h]
  | next x rest hx ih =>
    rw [byteLines_append hx] at h
    rcases List.mem_cons.mp h with rfl | h
    · exact hx
    · exact ih h

/-! ## Their text -/

theorem lineFeed_lt : lineFeed < 0x80 := by decide

/-- A line feed stands for its byte. -/
theorem notMem_decode (h : lineFeed ∉ x) : '\n' ∉ (decode x).toList := by
  intro hmem
  obtain ⟨b, hb, hcode⟩ := Text.mem_of_mem_decode (by decide) (by decide) hmem
  obtain rfl : b = lineFeed := UInt8.toNat_inj.mp hcode
  exact h hb

theorem toList_decode_append (x rest : List UInt8) :
    (decode (x ++ lineFeed :: rest)).toList = (decode x).toList ++ '\n' :: (decode rest).toList :=
  Text.decode_append x lineFeed_lt rest

/-- **Bytes are read as their pieces between line feeds are**, each of them by itself. -/
theorem decode_eq_intercalate (bytes : List UInt8) :
    decode bytes = "\n".intercalate ((bytes.splitOn lineFeed).map decode) := by
  induction bytes using bytes_induction with
  | last x hx => rw [List.splitOn_eq_singleton hx, List.map_singleton, String.intercalate_singleton]
  | next x rest hx ih =>
    have hne : (rest.splitOn lineFeed).map decode ≠ [] := by simp [List.splitOn_ne_nil]
    rw [splitOn_append hx, List.map_cons, String.intercalate_cons_of_ne_nil hne, ← ih,
      ← String.toList_inj, toList_decode_append]
    simp

/-! ## Carriage returns -/

/-- A text without the carriage returns at its end. -/
def withoutReturns (s : String) : String := String.ofList (s.toList.rdropWhile (· = '\r'))

/-- **What is kept of a line** without its line feed. -/
def lineText (line : List UInt8) : String := withoutReturns (decode line)

theorem rdropWhile_dropReturn (cs : List Char) :
    (dropReturn cs).rdropWhile (· = '\r') = cs.rdropWhile (· = '\r') := by
  unfold dropReturn
  split
  · rename_i hlast
    obtain ⟨cs, rfl⟩ := List.getLast?_eq_some_iff.mp hlast
    rw [List.dropLast_concat, List.rdropWhile_concat_pos _ _ _ (by simp)]
  · rfl

theorem dropReturn_rdropWhile (cs : List Char) :
    dropReturn (cs.rdropWhile (· = '\r')) = cs.rdropWhile (· = '\r') := by
  refine if_neg fun hlast => ?_
  have hne : cs.rdropWhile (· = '\r') ≠ [] := List.ne_nil_of_mem (List.mem_of_getLast? hlast)
  have hend := List.rdropWhile_last_not _ _ hne
  rw [List.getLast?_eq_some_getLast hne] at hlast
  exact hend (by simpa using hlast)

/-- Without a line feed, what is at the end of a line are carriage returns. -/
theorem trimLineEnds_of_notMem {cs : List Char} (h : '\n' ∉ cs) :
    trimLineEnds cs = cs.rdropWhile (· = '\r') := by
  show cs.rdropWhile isLineEnd = _
  induction cs using List.reverseRecOn with
  | nil => rfl
  | append_singleton cs c ih =>
    obtain ⟨hcs, hc⟩ : '\n' ∉ cs ∧ '\n' ≠ c := by simpa using h
    have hend : isLineEnd c = decide (c = '\r') := by simp [isLineEnd, hc.symm]
    rw [List.rdropWhile_concat, List.rdropWhile_concat, hend, ih hcs]

theorem trimLineEnds_concat (cs : List Char) : trimLineEnds (cs ++ ['\n']) = trimLineEnds cs := by
  simp [trimLineEnds, isLineEnd]

/-- A line is kept the same with its line feed and without it. -/
theorem keptLine_eq (h : lineFeed ∉ x) :
    keptLine x = lineText x ++ "\n" ∧ keptLine (x ++ [lineFeed]) = lineText x ++ "\n" := by
  have hkept : keptLine x = lineText x ++ "\n" := by
    rw [keptLine, trimLineEnds_of_notMem (notMem_decode h)]
    rfl
  refine ⟨hkept, ?_⟩
  rw [← hkept, keptLine, toList_decode_append]
  exact congrArg (String.ofList · ++ "\n") (trimLineEnds_concat _)

/-! ## The lines of the text -/

/-- **The lines of bytes are the lines of their text**, but for carriage returns. -/
theorem map_lines_decode (bytes : List UInt8) :
    (Text.lines (decode bytes)).map withoutReturns = (byteLines bytes).map lineText := by
  have hlines (cs : List Char) : ((linesOf cs).map String.ofList).map withoutReturns =
      (linesOf cs).map fun line => String.ofList (line.rdropWhile (· = '\r')) := by
    rw [List.map_map]
    exact List.map_congr_left fun line _ => by simp [withoutReturns]
  induction bytes using bytes_induction with
  | last x hx =>
    rw [Text.lines, hlines, Text.linesOf_of_notMem (notMem_decode hx), byteLines_of_notMem hx]
    rcases eq_or_ne x [] with rfl | hne
    · rfl
    · have hchars : (decode x).toList ≠ [] := by
        rwa [Ne, String.toList_eq_nil_iff, Text.decode_eq_empty_iff]
      rw [if_neg (by simpa using hchars), if_neg (by simpa using hne)]
      rfl
  | next x rest hx ih =>
    rw [Text.lines, hlines] at ih ⊢
    rw [toList_decode_append, Text.linesOf_append (notMem_decode hx), byteLines_append hx,
      List.map_cons, List.map_cons, ih, rdropWhile_dropReturn]
    rfl

/-! ## The reader -/

/-- **A line is read up to its line feed**, or to the end of a stream that holds none. -/
theorem readLine_cases (buffer : List UInt8) (hreads : ∀ read ∈ reads, read ≠ [])
    (hline : lineFeed ∉ line) :
    (∃ x, lineFeed ∉ x ∧ (readLine line buffer reads).1 = x ++ [lineFeed]) ∨
      lineFeed ∉ (readLine line buffer reads).1 ∧ (readLine line buffer reads).2 = ([], []) := by
  have hnone {buffer : List UInt8} (hrest : buffer.dropWhile (· ≠ lineFeed) = []) :
      lineFeed ∉ buffer := by
    intro hmem
    simpa using List.dropWhile_eq_nil_iff.mp hrest lineFeed hmem
  -- on the reads that the line takes: what is read of it so far holds no line feed
  induction line, buffer, reads using readLine.induct with
  | case1 line buffer e rest reads hrest =>
    have hend := List.head?_dropWhile_not (· ≠ lineFeed) buffer
    rw [hrest] at hend
    obtain rfl : e = lineFeed := by simpa using hend
    refine Or.inl ⟨line ++ buffer.takeWhile (· ≠ lineFeed), ?_, ?_⟩
    · intro hmem
      rcases List.mem_append.mp hmem with hmem | hmem
      · exact hline hmem
      · simpa using List.mem_takeWhile_imp hmem
    · rw [readLine_of_cons hrest, List.append_assoc]
  | case2 line buffer b bs reads hrest ih =>
    rw [readLine_of_nil_cons hrest]
    refine ih (fun read hread => hreads read (List.mem_cons_of_mem _ hread)) fun hmem => ?_
    exact (List.mem_append.mp hmem).elim hline (hnone hrest)
  | case3 line buffer reads hrest => exact absurd rfl (hreads [] List.mem_cons_self)
  | case4 line buffer hrest =>
    rw [readLine_of_nil_nil hrest]
    exact Or.inr ⟨fun hmem => (List.mem_append.mp hmem).elim hline (hnone hrest), rfl⟩

/-- What is still to arrive was so before. -/
theorem suffix_readLine (line buffer : List UInt8) (reads : Reads) :
    (readLine line buffer reads).2.2 <:+ reads := by
  induction line, buffer, reads using readLine.induct with
  | case1 line buffer e rest reads hrest =>
    simpa only [readLine_of_cons hrest] using List.suffix_rfl
  | case2 line buffer b bs reads hrest ih =>
    rw [readLine_of_nil_cons hrest]
    exact ih.trans (List.suffix_cons _ _)
  | case3 line buffer reads hrest =>
    rw [readLine_of_nil_end hrest]
    exact List.suffix_cons _ _
  | case4 line buffer hrest =>
    simpa only [readLine_of_nil_nil hrest] using List.suffix_rfl

/-- A stream of which nothing is left has been read. -/
theorem gather_of_nil {left : List UInt8 × Reads} (h : readLine [] buffer reads = ([], left))
    (kept : String) : gather kept buffer reads = kept := by
  rw [gather]
  split
  · rfl
  · rename_i hline
    cases h.symm.trans hline

/-- A line is kept, and the lines behind it follow. -/
theorem gather_of_cons {b : UInt8} {left : List UInt8 × Reads}
    (h : readLine [] buffer reads = (b :: line, left)) (kept : String) :
    gather kept buffer reads = gather (kept ++ keptLine (b :: line)) left.1 left.2 := by
  rw [gather]
  split
  · rename_i hline
    cases h.symm.trans hline
  · rename_i hline
    cases h.symm.trans hline
    rfl

/-- **What is kept of a stream are its lines**, however it is cut into reads. -/
theorem gather_eq (hreads : ∀ read ∈ reads, read ≠ []) (kept : String) :
    gather kept buffer reads = kept ++ String.join
      ((byteLines (buffer ++ reads.flatten)).map fun line => lineText line ++ "\n") := by
  -- on the lines: each is the first one of the bytes that have not been kept
  induction kept, buffer, reads using gather.induct with
  | case1 kept buffer reads rest later hline =>
    have hcases := readLine_cases buffer hreads (List.not_mem_nil (a := lineFeed))
    have hbytes := readLine_append [] buffer reads
    rw [hline] at hcases hbytes
    obtain ⟨x, -, hx⟩ | ⟨-, hleft⟩ := hcases
    · exact absurd hx (by simp)
    · -- no byte has arrived, and none is still to arrive
      cases hleft
      rw [gather_of_nil hline, ← List.nil_append (buffer ++ _), ← hbytes]
      exact (String.append_empty (s := kept)).symm
  | case2 kept buffer reads b line rest later hline ih =>
    have hlater : ∀ read ∈ later, read ≠ [] := by
      have hsuffix := suffix_readLine [] buffer reads
      rw [hline] at hsuffix
      exact fun read hread => hreads read (hsuffix.subset hread)
    have hcases := readLine_cases buffer hreads (List.not_mem_nil (a := lineFeed))
    have hbytes := readLine_append [] buffer reads
    rw [hline] at hcases hbytes
    dsimp only at hcases hbytes
    rw [gather_of_cons hline, ih hlater, ← List.nil_append (buffer ++ _), ← hbytes]
    obtain ⟨x, hx, hx'⟩ | ⟨hx, hleft⟩ := hcases
    · rw [hx', (keptLine_eq hx).2, List.append_assoc, List.singleton_append, byteLines_append hx,
        List.map_cons, String.join_cons, String.append_assoc]
    · -- the last line has no end
      cases hleft
      rw [(keptLine_eq hx).1, List.flatten_nil, List.append_nil, List.append_nil,
        byteLines_of_notMem hx]
      simp [byteLines_of_notMem]

/-- Each line is kept with a line feed. -/
theorem wholeLines_gather {kept : String} (h : Text.WholeLines kept) (buffer : List UInt8)
    (reads : Reads) : Text.WholeLines (gather kept buffer reads) := by
  induction kept, buffer, reads using gather.induct with
  | case1 kept buffer reads rest later hline => rwa [gather_of_nil hline]
  | case2 kept buffer reads b line rest later hline ih =>
    rw [gather_of_cons hline]
    exact ih (h.append (Text.wholeLines_append_lineFeed _))

theorem wholeLines_capture (reads : Reads) : Text.WholeLines (capture reads) :=
  wholeLines_gather Text.wholeLines_empty [] reads

/-- The text of a line stands on one line. -/
theorem lines_lineText (h : lineFeed ∉ line) :
    Text.lines (lineText line ++ "\n") = [lineText line] := by
  have hmem : '\n' ∉ (decode line).toList.rdropWhile (· = '\r') :=
    fun hmem => notMem_decode h ((List.rdropWhile_prefix _ _).subset hmem)
  have hlines : linesOf ((decode line).toList.rdropWhile (· = '\r') ++ ['\n']) =
      [(decode line).toList.rdropWhile (· = '\r')] := by
    rw [Text.linesOf_append hmem, dropReturn_rdropWhile]
    rfl
  rw [Text.lines, String.toList_append, lineText, withoutReturns, String.toList_ofList]
  exact congrArg (List.map String.ofList) hlines

/-- **The text kept of bytes.** -/
structure Transcript (bytes : List UInt8) (text : String) : Prop where
  /-- It is what all the bytes are read as, each line without the carriage returns at its end and
  with a line feed. -/
  text_eq :
    text = String.join ((Text.lines (decode bytes)).map fun line => withoutReturns line ++ "\n")
  /-- All the bytes are read as their lines are read, each by itself. -/
  decode_eq : decode bytes = "\n".intercalate ((bytes.splitOn lineFeed).map decode)
  /-- Every line of the text comes from one line of the bytes alone. -/
  lines_eq : Text.lines text = (byteLines bytes).map lineText
  /-- A line that is UTF-8 is read as that text, whatever stands on the other lines. -/
  utf8 : ∀ (n : Nat) (s : String), (byteLines bytes)[n]? = some (encode s) →
    (Text.lines text)[n]? = some (withoutReturns s)

/-- **The text kept of a stream** depends on the bytes alone, however they arrive. -/
theorem transcript_capture (hreads : ∀ read ∈ reads, read ≠ []) :
    Transcript reads.flatten (capture reads) := by
  have htext : capture reads =
      String.join ((byteLines reads.flatten).map fun line => lineText line ++ "\n") := by
    rw [capture, gather_eq hreads, List.nil_append, String.empty_append]
  have hlines : Text.lines (capture reads) = (byteLines reads.flatten).map lineText := by
    have hwhole : ∀ s ∈ (byteLines reads.flatten).map fun line => lineText line ++ "\n",
        Text.WholeLines s := by
      simp only [List.forall_mem_map]
      exact fun line _ => Text.wholeLines_append_lineFeed _
    rw [htext, Text.lines_join hwhole, List.flatMap_map, List.map_eq_flatMap]
    exact List.flatMap_congr fun line hline => lines_lineText (notMem_of_mem_byteLines hline)
  exact {
    text_eq := by
      rw [htext]
      have hmap := congrArg (List.map (· ++ "\n")) (map_lines_decode reads.flatten)
      rw [List.map_map, List.map_map] at hmap
      exact congrArg String.join hmap.symm
    decode_eq := decode_eq_intercalate _
    lines_eq := hlines
    utf8 := fun n s hn => by
      rw [hlines, List.getElem?_map, hn, Option.map_some, lineText, Text.decode_encode] }

/-- A character that two reads share, a line that is not UTF-8, and one without its end. -/
theorem transcript_capture_reads :
    let reads : Reads := [[0x61, 0xC3], [0xA9, 0x0D, 0x0D, 0x0A, 0xFF], [0x0A, 0x62]]
    (∀ read ∈ reads, read ≠ []) ∧ Transcript reads.flatten (capture reads) ∧
      capture reads = "aé\n\uFFFD\nb\n" := by
  intro reads
  have hreads : ∀ read ∈ reads, read ≠ [] := by decide
  have htranscript := transcript_capture hreads
  refine ⟨hreads, htranscript, htranscript.text_eq.trans ?_⟩
  decide +kernel

end RtlFlow.Launch
