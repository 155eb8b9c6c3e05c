import KiCore.Agent.Aionrs.HistorySanitize
import KiCore.Lib.Text

/-!
# The attachment block

Port of `resolve_chat_message` of `aionui-project/src/chat_files.rs`, which appends the paths of the
attachments to the text of a message, and of `manager/aionrs/content.rs`, which takes them off again.
How a single reference is resolved is a parameter.
-/

namespace KiCore.Agent.Aionrs

open KiCore.Lib
open Str (trim isWhitespace)

def AIONUI_FILES_MARKER : String := "[[AION_FILES]]"

def ATTACHED_FILES_HEADER : String := "[Attached files]"

structure ResolvedChatMessage where
  content : String
  files : List String

def resolveChatMessage {ρ ε : Type} (resolveChatFileRef : ρ → Except ε String) (content : String)
    (files : List ρ) : Except ε ResolvedChatMessage := do
  let paths ← files.mapM resolveChatFileRef
  let content := if paths.isEmpty then content
    else content ++ "\n\n" ++ AIONUI_FILES_MARKER ++ "\n" ++ "\n".intercalate paths
  return { content, files := paths }

/-- `str::lines` of the pieces between line feeds: a carriage return before a line feed goes with it, and
nothing behind the last line feed is no line. -/
def linesOf : List (List Char) → List (List Char)
  | [] => []
  | [line] => if line.isEmpty then [] else [line]
  | line :: next :: rest =>
    (if line.getLast? = some '\r' then line.dropLast else line) :: linesOf (next :: rest)

def lines (s : String) : List String := (linesOf (s.toList.splitOn '\n')).map String.ofList

def rsplitOnce (s pattern : String) : Option (String × String) :=
  (Text.rsplitOnce pattern.toList s.toList).map fun parts =>
    (String.ofList parts.1, String.ofList parts.2)

def stripAttachmentMetadata (content : String) (files : List String) : String :=
  if files.isEmpty then content
  else
    match rsplitOnce content AIONUI_FILES_MARKER with
    | none => content
    | some (userText, metadata) =>
      let metadataFiles := ((lines metadata).map trim).filter (· ≠ "")
      if metadataFiles = files then userText else content

def buildContentBlocks (content : String) (files : List String) : List ContentBlock :=
  let text := trim (stripAttachmentMetadata content files)
  let text :=
    if files.isEmpty then text
    else
      let text := if text = "" then text else text ++ "\n\n"
      files.foldl (fun text filePath => text ++ "\n" ++ filePath) (text ++ ATTACHED_FILES_HEADER)
  if text = "" then [] else [.text text]

def shown (content : List ContentBlock) : String :=
  String.join (content.map fun block => match block with
    | .text text => text
    | _ => "")

/-- The attached files under their header, behind a text. -/
def withFiles (text : String) (files : List String) : String :=
  if files.isEmpty then text
  else (if text = "" then "" else text ++ "\n\n") ++ "\n".intercalate (ATTACHED_FILES_HEADER :: files)

/-- A path that is a line of its own: not empty, without blanks at its ends and line feeds, and without
the marker. -/
structure PlainPath (path : String) : Prop where
  nonempty : path ≠ ""
  trimmed : trim path = path
  oneLine : '\n' ∉ path.toList
  unmarked : ¬ AIONUI_FILES_MARKER.toList <:+: path.toList

variable {ρ ε : Type} {resolve : ρ → Except ε String} {content s t : String} {files : List String}
  {refs : List ρ} {msg : ResolvedChatMessage}

lemma toList_trim (s : String) : (trim s).toList = Text.trim isWhitespace s.toList :=
  String.toList_ofList

lemma trim_ofList (l : List Char) : trim (String.ofList l) = String.ofList (Text.trim isWhitespace l) := by
  rw [← String.toList_inj, toList_trim, String.toList_ofList, String.toList_ofList]

lemma resolve_spec (ok : resolveChatMessage resolve content refs = .ok msg) :
    msg.content = if msg.files.isEmpty then content
      else content ++ "\n\n" ++ AIONUI_FILES_MARKER ++ "\n" ++ "\n".intercalate msg.files := by
  rw [resolveChatMessage] at ok
  cases paths : refs.mapM resolve with
  | error e =>
    rw [paths] at ok
    cases ok
  | ok paths' =>
    rw [paths] at ok
    cases ok
    rfl

lemma foldl_paths (text : String) (files : List String) :
    files.foldl (fun text filePath => text ++ "\n" ++ filePath) text = "\n".intercalate (text :: files) := by
  induction files generalizing text with
  | nil => exact String.intercalate_singleton.symm
  | cons filePath files ih =>
    rw [List.foldl_cons, ih, String.intercalate_cons_append, String.intercalate_cons_cons]

lemma shown_blocks (content : String) (files : List String) : shown (buildContentBlocks content files) =
    withFiles (trim (stripAttachmentMetadata content files)) files := by
  have shown_text : ∀ text, shown (if text = "" then [] else [.text text]) = text := by
    intro text
    split
    next empty => exact empty.symm
    next => simp [shown]
  rw [buildContentBlocks, shown_text, withFiles, foldl_paths, String.intercalate_cons_append]
  generalize trim (stripAttachmentMetadata content files) = text
  by_cases empty : text = ""
  · rw [if_pos empty, if_pos empty, empty]
  · rw [if_neg empty, if_neg empty]

lemma trim_dropLast {line : List Char} (ends : line.getLast? = some '\r') :
    Text.trim isWhitespace line.dropLast = Text.trim isWhitespace line := by
  have split : line = line.dropLast ++ ['\r'] := (List.dropLast_append_getLast? _ ends).symm
  conv_rhs => rw [split]
  exact (Text.trim_append_of_all (List.forall_mem_singleton.mpr rfl)).symm

lemma trim_linesOf (pieces : List (List Char)) :
    ((linesOf pieces).map (Text.trim isWhitespace)).filter (fun line => !line.isEmpty) =
      (pieces.map (Text.trim isWhitespace)).filter fun line => !line.isEmpty := by
  induction pieces with
  | nil => rfl
  | cons line pieces ih =>
    cases pieces with
    | nil =>
      rw [linesOf]
      split
      next empty =>
        rw [List.isEmpty_iff.mp empty]
        rfl
      next => rfl
    | cons next rest =>
      have same : Text.trim isWhitespace (if line.getLast? = some '\r' then line.dropLast else line) =
          Text.trim isWhitespace line := by
        split
        next ends => exact trim_dropLast ends
        next => rfl
      rw [linesOf, List.map_cons, List.map_cons, List.filter_cons, List.filter_cons, ih, same]

lemma metadataFiles_eq (s : String) : ((lines s).map trim).filter (· ≠ "") =
    (((s.toList.splitOn '\n').map (Text.trim isWhitespace)).filter fun line => !line.isEmpty).map
      String.ofList := by
  have parts : (lines s).map trim =
      ((linesOf (s.toList.splitOn '\n')).map (Text.trim isWhitespace)).map String.ofList := by
    rw [lines, List.map_map, List.map_map]
    exact List.map_congr_left fun line _ => trim_ofList line
  rw [parts, List.filter_map, ← trim_linesOf]
  congr 1
  apply List.filter_congr
  intro line _
  cases line <;> simp [String.ofList_eq_empty_iff]

lemma marker_full : AIONUI_FILES_MARKER.toList ≠ [] := by decide

lemma newline_not_mem_marker : '\n' ∉ AIONUI_FILES_MARKER.toList := by decide

lemma marker_inside : AIONUI_FILES_MARKER.toList <:+: ("\n".intercalate files).toList ↔
    ∃ path ∈ files, AIONUI_FILES_MARKER.toList <:+: path.toList := by
  have joined : ("\n".intercalate files).toList = ['\n'].intercalate (files.map String.toList) :=
    String.toList_intercalate
  rw [joined, Text.infix_intercalate marker_full newline_not_mem_marker]
  simp only [List.mem_map, exists_exists_and_eq_and]

lemma metadataFiles_of_plain (plain : ∀ path ∈ files, PlainPath path) (some_ : files ≠ []) :
    ((lines ("\n" ++ "\n".intercalate files)).map trim).filter (· ≠ "") = files := by
  have oneLine : ∀ line ∈ files.map String.toList, '\n' ∉ line := by
    intro line mem
    obtain ⟨path, held, rfl⟩ := List.mem_map.mp mem
    exact (plain path held).oneLine
  have split : ("\n" ++ "\n".intercalate files).toList.splitOn '\n' = [] :: files.map String.toList := by
    rw [String.toList_append, String.toList_intercalate]
    exact (List.splitOn_append_cons_self_of_not_mem List.not_mem_nil _).trans
      (congrArg _ (List.splitOn_intercalate '\n' oneLine (by simpa using some_)))
  have trimmed : (files.map String.toList).map (Text.trim isWhitespace) = files.map String.toList := by
    rw [List.map_map]
    apply List.map_congr_left
    intro path mem
    rw [Function.comp_apply, ← toList_trim, (plain path mem).trimmed]
  have full : (files.map String.toList).filter (fun line => !line.isEmpty) = files.map String.toList := by
    apply List.filter_eq_self.mpr
    intro line mem
    obtain ⟨path, held, rfl⟩ := List.mem_map.mp mem
    simpa using (plain path held).nonempty
  rw [metadataFiles_eq, split, List.map_cons, trimmed]
  change (List.filter (fun line => !line.isEmpty) (files.map String.toList)).map String.ofList = files
  rw [full, List.map_map]
  exact (List.map_congr_left fun path _ => String.ofList_toList).trans (List.map_id _)

lemma toList_inlined (content : String) (files : List String) :
    (content ++ "\n\n" ++ AIONUI_FILES_MARKER ++ "\n" ++ "\n".intercalate files).toList =
      (content ++ "\n\n").toList ++ AIONUI_FILES_MARKER.toList ++
        '\n' :: ("\n".intercalate files).toList := by
  rw [String.toList_append, String.toList_append, String.toList_append, List.append_assoc]
  rfl

lemma strip_of_plain (plain : ∀ path ∈ files, PlainPath path) (some_ : files ≠ []) (content : String) :
    stripAttachmentMetadata
      (content ++ "\n\n" ++ AIONUI_FILES_MARKER ++ "\n" ++ "\n".intercalate files) files =
        content ++ "\n\n" := by
  have unmarked : ¬ AIONUI_FILES_MARKER.toList <:+: ("\n".intercalate files).toList := by
    rw [marker_inside]
    rintro ⟨path, mem, marked⟩
    exact (plain path mem).unmarked marked
  have last : ¬ AIONUI_FILES_MARKER.toList <:+:
      AIONUI_FILES_MARKER.toList.tail ++ '\n' :: ("\n".intercalate files).toList := by
    rw [Text.infix_append_cons newline_not_mem_marker, not_or]
    exact ⟨fun inside => absurd inside.length_le (by decide), unmarked⟩
  have found : rsplitOnce
      (content ++ "\n\n" ++ AIONUI_FILES_MARKER ++ "\n" ++ "\n".intercalate files) AIONUI_FILES_MARKER =
        some (content ++ "\n\n", "\n" ++ "\n".intercalate files) := by
    have rest : String.ofList ('\n' :: ("\n".intercalate files).toList) = "\n" ++ "\n".intercalate files := by
      rw [← String.toList_inj, String.toList_ofList, String.toList_append]
      rfl
    rw [rsplitOnce, toList_inlined, Text.rsplitOnce_of_last marker_full last, Option.map_some, rest,
      String.ofList_toList]
  rw [stripAttachmentMetadata, if_neg (by simpa using some_), found]
  exact if_pos (metadataFiles_of_plain plain some_)

/-- Where the decoder finds the paths that were appended, they are plain. -/
lemma plain_of_found {userText metadata : String}
    (found : rsplitOnce (content ++ "\n\n" ++ AIONUI_FILES_MARKER ++ "\n" ++ "\n".intercalate files)
      AIONUI_FILES_MARKER = some (userText, metadata))
    (same : ((lines metadata).map trim).filter (· ≠ "") = files) : ∀ path ∈ files, PlainPath path := by
  rw [metadataFiles_eq] at same
  have length : ("\n".intercalate files).toList.length ≤ metadata.toList.length := by
    have shorter := Text.length_intercalate_le isWhitespace '\n' (metadata.toList.splitOn '\n')
    rw [List.intercalate_splitOn] at shorter
    rw [← same, String.toList_intercalate, List.map_map]
    simpa [Function.comp_def] using shorter
  have unmarked : ¬ AIONUI_FILES_MARKER.toList <:+: ("\n".intercalate files).toList := by
    intro marked
    cases inside : Text.rsplitOnce AIONUI_FILES_MARKER.toList ("\n".intercalate files).toList with
    | none => exact (Text.rsplitOnce_eq_none marker_full).mp inside marked
    | some pair =>
      obtain ⟨before, after⟩ := pair
      have whole := congrArg List.length (Text.eq_of_rsplitOnce marker_full inside)
      have later := Text.rsplitOnce_append inside
        ((content ++ "\n\n").toList ++ AIONUI_FILES_MARKER.toList ++ ['\n'])
      rw [rsplitOnce, toList_inlined, List.append_cons, later, Option.map_some] at found
      cases found
      rw [String.toList_ofList] at length
      dsimp only at length
      rw [List.length_append, List.length_append] at whole
      have positive := List.length_pos_iff.mpr marker_full
      omega
  intro path mem
  have marked : ¬ AIONUI_FILES_MARKER.toList <:+: path.toList :=
    fun inside => unmarked (marker_inside.mpr ⟨path, mem, inside⟩)
  rw [← same] at mem
  obtain ⟨line, there, rfl⟩ := List.mem_map.mp mem
  obtain ⟨trimmed, full⟩ := List.mem_filter.mp there
  obtain ⟨piece, held, rfl⟩ := List.mem_map.mp trimmed
  have sub : ∀ c ∈ Text.trim isWhitespace piece, c ∈ piece := fun c mem =>
    List.dropWhile_subset _ ((List.rdropWhile_prefix _ _).subset mem)
  refine ⟨?_, ?_, ?_, marked⟩
  · simpa [String.ofList_eq_empty_iff] using full
  · rw [trim_ofList, Text.trim_trim]
  · rw [String.toList_ofList]
    intro newline
    rw [List.splitOn_eq_splitOnP] at held
    have apart := Text.mem_splitOnP held _ (sub _ newline)
    exact Bool.false_ne_true (apart.symm.trans (beq_self_eq_true '\n'))

lemma strip_of_not_plain (other : ¬ ∀ path ∈ files, PlainPath path) (content : String) :
    stripAttachmentMetadata
      (content ++ "\n\n" ++ AIONUI_FILES_MARKER ++ "\n" ++ "\n".intercalate files) files =
        content ++ "\n\n" ++ AIONUI_FILES_MARKER ++ "\n" ++ "\n".intercalate files := by
  rw [stripAttachmentMetadata]
  split
  · rfl
  · cases found : rsplitOnce
        (content ++ "\n\n" ++ AIONUI_FILES_MARKER ++ "\n" ++ "\n".intercalate files)
        AIONUI_FILES_MARKER with
    | none => rfl
    | some pair => exact if_neg fun same => other (plain_of_found found same)

lemma withFiles_ne (some_ : files ≠ []) (longer : s.length < t.length) :
    withFiles t files ≠ withFiles s files := by
  intro same
  have filed : files.isEmpty = false := by simpa using some_
  have nonempty : t ≠ "" := by
    rintro rfl
    exact absurd longer (Nat.not_lt_zero _)
  have lengths := congrArg String.length same
  rw [withFiles, withFiles, filed, if_neg Bool.false_ne_true, if_neg Bool.false_ne_true, if_neg nonempty,
    String.length_append, String.length_append, String.length_append] at lengths
  split at lengths
  · rw [String.length_empty] at lengths
    omega
  · rw [String.length_append] at lengths
    omega

/-- The agent is shown the user's text and the attached files exactly if each path is plain. -/
theorem round_trip_iff (ok : resolveChatMessage resolve content refs = .ok msg) :
    shown (buildContentBlocks msg.content msg.files) = withFiles (trim content) msg.files ↔
      ∀ path ∈ msg.files, PlainPath path := by
  have inlined := resolve_spec ok
  rw [shown_blocks]
  by_cases none_ : msg.files = []
  · rw [if_pos (List.isEmpty_iff.mpr none_)] at inlined
    rw [stripAttachmentMetadata, if_pos (List.isEmpty_iff.mpr none_), inlined, none_]
    exact iff_of_true rfl (List.forall_mem_nil _)
  · rw [if_neg (by simpa using none_)] at inlined
    rw [inlined]
    by_cases plain : ∀ path ∈ msg.files, PlainPath path
    · have blank : trim (content ++ "\n\n") = trim content := by
        rw [← String.toList_inj, toList_trim, toList_trim, String.toList_append]
        exact Text.trim_append_of_all (List.all_eq_true.mp rfl)
      rw [strip_of_plain plain none_, blank]
      exact iff_of_true rfl plain
    · rw [strip_of_not_plain plain]
      refine iff_of_false (withFiles_ne none_ ?_) plain
      rw [← String.length_toList, ← String.length_toList, toList_trim, toList_trim, toList_inlined,
        String.toList_append, List.append_assoc, List.append_assoc]
      exact Text.length_trim_lt ⟨'[', by simp [AIONUI_FILES_MARKER], rfl⟩

theorem round_trip_plain : shown (buildContentBlocks "look\n\n[[AION_FILES]]\n/tmp/a" ["/tmp/a"]) =
    withFiles (trim "look") ["/tmp/a"] := by
  have ok : resolveChatMessage (Except.ok : String → Except Unit String) "look" ["/tmp/a"] =
      .ok { content := "look\n\n[[AION_FILES]]\n/tmp/a", files := ["/tmp/a"] } := by rfl
  refine (round_trip_iff ok).mpr (List.forall_mem_singleton.mpr ⟨?_, ?_, ?_, ?_⟩)
  all_goals decide

/-- A file whose name ends in a blank: the marker and the path reach the agent. -/
theorem round_trip_blank :
    ∃ msg, resolveChatMessage (Except.ok : String → Except Unit String) "look" ["/tmp/a "] = .ok msg ∧
      shown (buildContentBlocks msg.content msg.files) =
        "look\n\n[[AION_FILES]]\n/tmp/a\n\n[Attached files]\n/tmp/a " ∧
      shown (buildContentBlocks msg.content msg.files) ≠ withFiles (trim "look") msg.files := by
  refine ⟨{ content := "look\n\n[[AION_FILES]]\n/tmp/a ", files := ["/tmp/a "] }, rfl, ?_, ?_⟩
  all_goals decide

end KiCore.Agent.Aionrs
