import WindowLang.Source.Loading

namespace WindowLang

/-!
# Lines of bytes and lines of text

A line feed and a carriage return are encoded by one byte each, and that byte stands in
the encoding of no other character. So the lines of a text's bytes are the bytes of the
text's lines, and bytes of which every line is encoded text are encoded text as a whole.
A file is therefore read, loaded and parsed as the text that its bytes encode.
-/

namespace Text

/-- The bytes that encode some characters in UTF-8. -/
def utf8Bytes (characters : List Char) : List UInt8 :=
  characters.flatMap String.utf8EncodeChar

@[simp] theorem utf8Bytes_append (first second : List Char) :
    utf8Bytes (first ++ second) = utf8Bytes first ++ utf8Bytes second :=
  List.flatMap_append

/-- The encoding of a string is that of its characters. -/
theorem toUTF8_eq_iff
    {text : String}
    {bytes : List UInt8} :
    text.toUTF8 = bytes.toByteArray ↔ utf8Bytes text.toList = bytes := by
  rw [String.toUTF8_eq_toByteArray, ← String.utf8Encode_toList]
  exact List.toByteArray_inj

/-- Bytes are decoded to the string that they encode, and only to that. -/
theorem decodeUtf8?_eq_some_iff
    {bytes : List UInt8}
    {text : String} :
    decodeUtf8? bytes = some text ↔ utf8Bytes text.toList = bytes := by
  rw [← toUTF8_eq_iff, String.toUTF8_eq_toByteArray]
  unfold decodeUtf8? String.fromUTF8?
  constructor
  · intro decoded
    split at decoded
    · rw [← Option.some.inj decoded]
      rfl
    · cases decoded
  · intro encoded
    have valid : bytes.toByteArray.IsValidUTF8 := encoded ▸ text.isValidUTF8
    rw [dif_pos valid, Option.some.injEq, ← String.toByteArray_inj]
    exact encoded.symm

/-- No byte of a longer encoding is one of ASCII. -/
theorem le_toNat_of_mem_utf8EncodeChar
    {c : Char}
    (notAscii : 0x80 ≤ c.toNat) :
    ∀ byte ∈ String.utf8EncodeChar c, 0x80 ≤ byte.toNat := by
  have code : c.val.toNat = c.toNat := rfl
  unfold String.utf8EncodeChar
  simp only [code]
  split
  · omega
  · split
    · simp only [List.forall_mem_cons, List.not_mem_nil, UInt8.toNat_ofNat', false_imp_iff,
        implies_true, and_true]
      omega
    · split
      · simp only [List.forall_mem_cons, List.not_mem_nil, UInt8.toNat_ofNat', false_imp_iff,
          implies_true, and_true]
        omega
      · simp only [List.forall_mem_cons, List.not_mem_nil, UInt8.toNat_ofNat', false_imp_iff,
          implies_true, and_true]
        omega

/-- A byte of ASCII encodes one character and is part of no other encoding. -/
theorem utf8EncodeChar_of_mem
    {c : Char}
    {byte : UInt8}
    (among : byte ∈ String.utf8EncodeChar c)
    (ascii : byte.toNat < 0x80) :
    byte.toNat = c.toNat := by
  by_cases short : c.toNat < 0x80
  · have code : c.val.toNat = c.toNat := rfl
    have alone : c.val.toNat ≤ 127 := by
      omega
    unfold String.utf8EncodeChar at among
    simp only [if_pos alone, List.mem_singleton] at among
    rw [among, UInt8.toNat_ofNat', code]
    omega
  · have high := le_toNat_of_mem_utf8EncodeChar (Nat.le_of_not_lt short) byte among
    omega

theorem utf8Bytes_concat (before : List Char) (c : Char) :
    utf8Bytes (before ++ [c]) = utf8Bytes before ++ String.utf8EncodeChar c := by
  simp [utf8Bytes]

/-- A character whose code is not that of an ASCII byte does not have it in its encoding. -/
theorem not_mem_utf8EncodeChar
    (ascii : Char)
    {c : Char}
    {byte : UInt8}
    (code : byte.toNat = ascii.toNat)
    (isAscii : byte.toNat < 0x80)
    (other : c ≠ ascii) :
    byte ∉ String.utf8EncodeChar c := by
  intro among
  have same := utf8EncodeChar_of_mem among isAscii
  exact other (Char.toNat_inj.1 (by omega))

/-! ## Cutting at line feeds -/

theorem splitOn_append_of_not_mem
    {α : Type}
    [DecidableEq α]
    {feed : α}
    {start : List α}
    (unfed : feed ∉ start)
    (rest : List α) :
    (start ++ rest).splitOn feed = (rest.splitOn feed).modifyHead (start ++ ·) := by
  induction start with
  | nil =>
      rw [List.nil_append]
      cases rest.splitOn feed with
      | nil | cons first others =>
          rfl
  | cons a start inductionHypothesis =>
      have other : a ≠ feed := fun same => unfed (same ▸ List.mem_cons_self)
      have others : feed ∉ start := fun among => unfed (List.mem_cons_of_mem a among)
      rw [List.cons_append, List.splitOn_cons_eq_if_modifyHead, inductionHypothesis others,
        if_neg (by simpa using other), List.modifyHead_modifyHead]
      rfl

/-- Encoded characters are cut where the characters are. -/
theorem splitOn_utf8Bytes (characters : List Char) :
    (utf8Bytes characters).splitOn 0x0A = (characters.splitOn '\n').map utf8Bytes := by
  induction characters with
  | nil =>
      rfl
  | cons c characters inductionHypothesis =>
      rw [List.splitOn_cons_eq_if_modifyHead]
      by_cases feed : c = '\n'
      · subst feed
        have cut := List.splitOn_append_cons_self (a := (0x0A : UInt8)) [] (utf8Bytes characters)
        rw [inductionHypothesis] at cut
        exact cut
      · have unfed : (0x0A : UInt8) ∉ String.utf8EncodeChar c :=
          not_mem_utf8EncodeChar '\n' rfl (by decide) feed
        have head : utf8Bytes (c :: characters) = String.utf8EncodeChar c ++ utf8Bytes characters :=
          rfl
        rw [head, splitOn_append_of_not_mem unfed, inductionHypothesis,
          if_neg (by simpa using feed)]
        cases characters.splitOn '\n' with
        | nil | cons first others =>
            rfl

/-- A carriage return at the end is dropped from the bytes as from the characters. -/
theorem dropCarriage_utf8Bytes (line : List Char) :
    dropCarriage 0x0D (utf8Bytes line) = utf8Bytes (dropCarriage '\r' line) := by
  rcases List.eq_nil_or_concat line with rfl | ⟨before, c, rfl⟩
  · rfl
  · rw [List.concat_eq_append, utf8Bytes_concat]
    by_cases carriage : c = '\r'
    · subst carriage
      have encoded : String.utf8EncodeChar '\r' = [0x0D] := rfl
      simp [dropCarriage, encoded]
    · have noCarriage : (0x0D : UInt8) ∉ String.utf8EncodeChar c :=
        not_mem_utf8EncodeChar '\r' rfl (by decide) carriage
      have lastByte :
          (utf8Bytes before ++ String.utf8EncodeChar c).getLast? ≠ some 0x0D := by
        rw [List.getLast?_append, List.getLast?_eq_some_getLast String.utf8EncodeChar_ne_nil]
        intro isLast
        exact noCarriage (Option.some.inj isLast ▸ List.getLast_mem _)
      rw [dropCarriage, if_neg lastByte, dropCarriage, if_neg (by simpa using carriage),
        utf8Bytes_concat]

/-- The lines of encoded characters are the encoded lines. -/
theorem byteLines_utf8Bytes (characters : List Char) :
    byteLines (utf8Bytes characters) = (splitLines '\n' '\r' characters).map utf8Bytes := by
  have lastLine (rest : Option (List Char)) :
      ((rest.map utf8Bytes).toList.filter fun line => !line.isEmpty) =
        (rest.toList.filter fun line => !line.isEmpty).map utf8Bytes := by
    cases rest with
    | none =>
        rfl
    | some rest =>
        cases rest with
        | nil | cons c rest =>
            simp [utf8Bytes]
  have otherLines (lines : List (List Char)) :
      (lines.map utf8Bytes).map (dropCarriage 0x0D) =
        (lines.map (dropCarriage '\r')).map utf8Bytes := by
    simp only [List.map_map]
    exact List.map_congr_left fun line _ => dropCarriage_utf8Bytes line
  rw [byteLines, splitLines, splitLines, splitOn_utf8Bytes, List.map_append, List.getLast?_map,
    lastLine, ← List.map_dropLast, otherLines]

/-! ## Bytes that encode text -/

/-- The bytes encode some characters. -/
def IsEncoded (bytes : List UInt8) : Prop :=
  ∃ characters, utf8Bytes characters = bytes

theorem isEncoded_of_decodeUtf8?
    {bytes : List UInt8}
    {text : String}
    (decoded : decodeUtf8? bytes = some text) :
    IsEncoded bytes :=
  ⟨text.toList, decodeUtf8?_eq_some_iff.1 decoded⟩

theorem IsEncoded.append
    {first second : List UInt8}
    (firstEncoded : IsEncoded first)
    (secondEncoded : IsEncoded second) :
    IsEncoded (first ++ second) := by
  obtain ⟨before, rfl⟩ := firstEncoded
  obtain ⟨behind, rfl⟩ := secondEncoded
  exact ⟨before ++ behind, utf8Bytes_append before behind⟩

theorem isEncoded_intercalate
    {pieces : List (List UInt8)}
    (encoded : ∀ piece ∈ pieces, IsEncoded piece) :
    IsEncoded ([0x0A].intercalate pieces) := by
  induction pieces with
  | nil =>
      exact ⟨[], rfl⟩
  | cons first others inductionHypothesis =>
      obtain ⟨firstEncoded, othersEncoded⟩ := List.forall_mem_cons.1 encoded
      cases others with
      | nil =>
          simpa using firstEncoded
      | cons second others =>
          have feed : IsEncoded [0x0A] := ⟨['\n'], rfl⟩
          rw [List.intercalate_cons_cons]
          exact (firstEncoded.append feed).append (inductionHypothesis othersEncoded)

theorem isEncoded_of_dropCarriage
    {line : List UInt8}
    (encoded : IsEncoded (dropCarriage 0x0D line)) :
    IsEncoded line := by
  unfold dropCarriage at encoded
  split at encoded
  · rename_i carriage
    obtain ⟨kept, rfl⟩ := List.getLast?_eq_some_iff.1 carriage
    rw [List.dropLast_concat] at encoded
    exact encoded.append ⟨['\r'], rfl⟩
  · exact encoded

/-- Bytes of which every line encodes text encode text. -/
theorem isEncoded_of_byteLines
    {bytes : List UInt8}
    (encoded : ∀ line ∈ byteLines bytes, IsEncoded line) :
    IsEncoded bytes := by
  have nonempty := List.splitOn_ne_nil (0x0A : UInt8) bytes
  have pieces := List.dropLast_concat_getLast nonempty
  obtain ⟨fed, last⟩ := List.forall_mem_append.1 encoded
  have joined : [0x0A].intercalate (bytes.splitOn 0x0A) = bytes :=
    List.intercalate_splitOn 0x0A
  rw [← joined]
  refine isEncoded_intercalate fun piece among => ?_
  rw [← pieces] at among
  rcases List.mem_append.1 among with isFed | isLast
  · exact isEncoded_of_dropCarriage (fed _ (List.mem_map_of_mem isFed))
  · obtain rfl := List.mem_singleton.1 isLast
    by_cases empty : (bytes.splitOn 0x0A).getLast nonempty = []
    · rw [empty]
      exact ⟨[], rfl⟩
    · refine last _ (List.mem_filter.2 ⟨?_, by simpa using empty⟩)
      simp [List.getLast?_eq_some_getLast nonempty]

theorem mapM_decodeUtf8? (lines : List (List Char)) :
    (lines.map utf8Bytes).mapM decodeUtf8? = some (lines.map String.ofList) := by
  induction lines with
  | nil =>
      rfl
  | cons line lines inductionHypothesis =>
      have decoded : decodeUtf8? (utf8Bytes line) = some (String.ofList line) :=
        decodeUtf8?_eq_some_iff.2 (by rw [String.toList_ofList])
      rw [List.map_cons, List.mapM_cons, decoded, inductionHypothesis]
      rfl

theorem isEncoded_of_mapM
    {lines : List (List UInt8)}
    {texts : List String}
    (decoded : lines.mapM decodeUtf8? = some texts) :
    ∀ line ∈ lines, IsEncoded line := by
  induction lines generalizing texts with
  | nil =>
      exact List.forall_mem_nil _
  | cons line lines inductionHypothesis =>
      rw [List.mapM_cons] at decoded
      obtain ⟨first, firstDecoded, rest⟩ := Option.bind_eq_some_iff.1 decoded
      obtain ⟨others, othersDecoded, _⟩ := Option.bind_eq_some_iff.1 rest
      exact List.forall_mem_cons.2
        ⟨isEncoded_of_decodeUtf8? firstDecoded, inductionHypothesis othersDecoded⟩

end Text

/-! ## Reading a file -/

/-- The lines of a file that encodes a text are the lines of the text. -/
theorem readLines_of_toUTF8
    {bytes : List UInt8}
    {text : String}
    (encodes : text.toUTF8 = bytes.toByteArray) :
    readLines (.ok bytes) = .ok (Text.lines text) := by
  have isBytes := Text.toUTF8_eq_iff.1 encodes
  rw [readLines, ← isBytes, Text.byteLines_utf8Bytes, Text.mapM_decodeUtf8?]
  rfl

/-- A file that encodes no text is not read. -/
theorem readLines_of_ne_toUTF8
    {bytes : List UInt8}
    (encodesNone : ∀ text : String, text.toUTF8 ≠ bytes.toByteArray) :
    readLines (.ok bytes) = .error .notUtf8 := by
  cases decoded : (Text.byteLines bytes).mapM Text.decodeUtf8? with
  | none =>
      simp [readLines, decoded]
  | some lines =>
      obtain ⟨characters, encoded⟩ := Text.isEncoded_of_byteLines (Text.isEncoded_of_mapM decoded)
      refine absurd (Text.toUTF8_eq_iff.2 ?_) (encodesNone (String.ofList characters))
      rwa [String.toList_ofList]

/-- A file is loaded as its lines are parsed. -/
theorem load_of_readLines
    {contents : Except Fault (List UInt8)}
    {lines : List String}
    (isRead : readLines contents = .ok lines)
    (strict : Bool)
    (path : String) :
    load strict path contents = (parse (tokenize strict lines)).mapError .document := by
  rw [load, loadFile, isRead]
  rfl

/-- A file that is not read is not loaded, and nothing of it is lexed or parsed. -/
theorem loadFile_of_readLines
    {contents : Except Fault (List UInt8)}
    {fault : Fault}
    (isFault : readLines contents = .error fault)
    (strict : Bool)
    (path : String) :
    loadFile strict path contents = ⟨.error (.source path fault), []⟩ := by
  rw [loadFile, isFault]

/--
A file whose bytes encode a text has the lines of that text, and loading it gives the
window, or the syntax error, that parsing the text gives. A file whose bytes encode no
text is reported, whatever its lines are, and nothing of it is lexed or parsed.
-/
theorem file_is_its_text
    (strict : Bool)
    (path : String)
    (bytes : List UInt8) :
    (∀ text : String,
        text.toUTF8 = bytes.toByteArray →
          readLines (.ok bytes) = .ok (Text.lines text) ∧
            (∀ window,
              load strict path (.ok bytes) = .ok window ↔ parseText strict text = .ok window) ∧
            ∀ error,
              load strict path (.ok bytes) = .error (.document error) ↔
                parseText strict text = .error error) ∧
      ((∀ text : String, text.toUTF8 ≠ bytes.toByteArray) →
        readLines (.ok bytes) = .error .notUtf8 ∧
          loadFile strict path (.ok bytes) = ⟨.error (.source path .notUtf8), []⟩) := by
  constructor
  · intro text encodes
    have isRead := readLines_of_toUTF8 encodes
    have loaded := load_of_readLines isRead strict path
    have isParsed : parse (tokenize strict (Text.lines text)) = parseText strict text := rfl
    rw [loaded, isParsed]
    refine ⟨isRead, ?_⟩
    cases parseText strict text with
    | ok parsed =>
        refine ⟨fun window => ?_, fun error => iff_of_false nofun nofun⟩
        change Except.ok parsed = Except.ok window ↔ _
        rw [Except.ok.injEq, Except.ok.injEq]
    | error other =>
        refine ⟨fun window => iff_of_false nofun nofun, fun error => ?_⟩
        change Except.error (LoadError.document other) = Except.error (.document error) ↔ _
        simp
  · intro encodesNone
    have isFault := readLines_of_ne_toUTF8 encodesNone
    exact ⟨isFault, loadFile_of_readLines isFault strict path⟩

/-- A comment with an umlaut, its line ended by both characters, and a word behind it. -/
def umlautBytes : List UInt8 :=
  [0x2F, 0xC3, 0xA4, 0x0D, 0x0A, 0x45, 0x6E, 0x64]

/-- The same with the first byte of an umlaut as its last line. -/
def brokenBytes : List UInt8 :=
  umlautBytes ++ [0x0A, 0xC3]

theorem umlautBytes_are_their_text :
    readLines (.ok umlautBytes) = .ok ["/ä", "End"] ∧
      load false "a" (.ok umlautBytes) =
        .error (.document
          (.unmet 1 [.unmet .gui (.token (.keyword .window)) (some (.ofKeyword .close))])) ∧
      loadFile false "a" (.ok brokenBytes) = ⟨.error (.source "a" .notUtf8), []⟩ := by
  have encodes : "/ä\r\nEnd".toUTF8 = umlautBytes.toByteArray := by
    rfl
  have lines : Text.lines "/ä\r\nEnd" = ["/ä", "End"] := by
    decide
  have encodesNone : ∀ text : String, text.toUTF8 ≠ brokenBytes.toByteArray := by
    intro text encodes
    have valid : brokenBytes.toByteArray.IsValidUTF8 := encodes ▸ text.isValidUTF8
    revert valid
    decide
  obtain ⟨isText, _⟩ := file_is_its_text false "a" umlautBytes
  obtain ⟨isRead, _, isError⟩ := isText _ encodes
  obtain ⟨_, isBroken⟩ := file_is_its_text false "a" brokenBytes
  rw [lines] at isRead
  exact ⟨isRead, (isError _).2 (by rfl), (isBroken encodesNone).2⟩

end WindowLang
