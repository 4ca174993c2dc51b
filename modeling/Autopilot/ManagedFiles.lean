/-
How a file of the managed state is read while others change what stands at its path.

The reader looks at the path, opens it, looks at what it has opened, reads to the end, and looks at
both once more. Whatever is done to the path and to the files between two of its calls, a file that
is changed gets a time of change that it has not had. What the reader compares are these times, and
the identities of the files.

This module is `readManagedStateTextFile` (`managedStateFile.ts`) on a platform with `O_NOFOLLOW`.
-/
import Autopilot.Js
import Autopilot.Lib.Utf8
import Mathlib.Data.Set.Insert
import Mathlib.Logic.Relation

set_option autoImplicit false

namespace Autopilot
namespace ManagedFiles

/-! ## Files -/

/-- The device and the number of an inode. -/
structure InodeId where
  dev : ℕ
  ino : ℕ
  deriving DecidableEq

/-- What an inode holds. -/
inductive Content where
  | regular (bytes : List UInt8)
  | link
  | other (size : ℕ)
  | free

/-- An inode as it is at some instant. -/
structure Inode where
  content : Content
  mode : ℕ
  mtimeNs : ℤ
  ctimeNs : ℤ

/-- `BigIntStats`, the fields that are read. -/
structure Metadata where
  id : InodeId
  isFile : Bool
  isSymbolicLink : Bool
  mode : ℕ
  size : ℕ
  mtimeNs : ℤ
  ctimeNs : ℤ

/-- The size that an inode has. -/
def Content.size : Content → ℕ
  | .regular bytes => bytes.length
  | .other size => size
  | .link | .free => 0

/-- The metadata of an inode. -/
def Inode.metadata (id : InodeId) (inode : Inode) : Metadata where
  id
  isFile := match inode.content with | .regular _ => true | _ => false
  isSymbolicLink := match inode.content with | .link => true | _ => false
  mode := inode.mode
  size := inode.content.size
  mtimeNs := inode.mtimeNs
  ctimeNs := inode.ctimeNs

/-- What there is at an instant: what stands at the path, the inodes, and the times of change that
each of them has had so far. -/
structure World where
  path : Option InodeId
  inode : InodeId → Inode
  stamps : InodeId → Set ℤ
  stamped : ∀ id, (inode id).ctimeNs ∈ stamps id

/-- What others may do at once: put anything at the path, and change inodes, each of which gets a
time of change that it has not had. -/
structure Foreign (w w' : World) : Prop where
  changed : ∀ id, w'.inode id = w.inode id ∨ (w'.inode id).ctimeNs ∉ w.stamps id
  stamps : ∀ id, w.stamps id ⊆ w'.stamps id

/-! ## The reader -/

/-- `INVALID_FILE`. -/
def invalidFile : JsString := js "invalid_managed_state_file"

/-- `IO_ERROR`. -/
def ioError : JsString := js "managed_state_file_io_error"

/-- `ManagedStateTextFile`. -/
inductive ManagedStateTextFile where
  | missing
  | present (text : JsString)

/-- What a call of the system comes back with. -/
inductive Reply where
  | failed (code : JsString)
  | stat (metadata : Metadata)
  | opened (file : InodeId)
  | data (chunk : List UInt8)

/-- Where the reader is, and what it holds there. -/
inductive Point where
  | start
  | opening (pathBefore : Metadata)
  | checking (pathBefore : Metadata) (file : InodeId)
  | reading (before : Metadata) (file : InodeId) (bytes : List UInt8)
  | measuring (before : Metadata) (file : InodeId) (bytes : List UInt8)
  | returning (before after : Metadata) (bytes : List UInt8)
  | done (result : Except JsString ManagedStateTextFile)

/-- `sameMetadata`. -/
def sameMetadata (left right : Metadata) : Bool :=
  left.id = right.id ∧ left.mode = right.mode ∧ left.size = right.size ∧
    left.mtimeNs = right.mtimeNs ∧ left.ctimeNs = right.ctimeNs

/-- The text of the bytes that were read: there is no byte order mark, and they are UTF-8. -/
def decoded (bytes : List UInt8) : Except JsString ManagedStateTextFile :=
  if [0xef, 0xbb, 0xbf] <+: bytes then .error invalidFile
  else
    match Utf8.decode bytes with
    | some text => .ok (.present text)
    | none => .error invalidFile

/-- The error of a call that fails behind `openSync`, or in it. -/
def openedError (code : JsString) : JsString :=
  if code ∈ [js "ENOENT", js "ELOOP"] then invalidFile else ioError

/-- What `readManagedStateTextFile` does with the reply to its next call. -/
def advance (maxBytes : ℕ) : Point → Reply → Point
  | .start, .failed code =>
    .done (if code = js "ENOENT" then .ok .missing else .error ioError)
  | .start, .stat pathBefore =>
    if !pathBefore.isFile || pathBefore.isSymbolicLink || maxBytes < pathBefore.size then
      .done (.error invalidFile)
    else .opening pathBefore
  | .opening _, .failed code => .done (.error (openedError code))
  | .opening pathBefore, .opened file => .checking pathBefore file
  | .checking _ _, .failed code => .done (.error (openedError code))
  | .checking pathBefore file, .stat before =>
    if !before.isFile || !sameMetadata pathBefore before || maxBytes < before.size then
      .done (.error invalidFile)
    else .reading before file []
  | .reading _ _ _, .failed code => .done (.error (openedError code))
  | .reading before file bytes, .data chunk =>
    -- the loop ends with the file, or with the buffer, which has one byte more than is allowed
    if chunk = [] ∨ maxBytes + 1 ≤ (bytes ++ chunk).length then
      .measuring before file (bytes ++ chunk)
    else .reading before file (bytes ++ chunk)
  | .measuring _ _ _, .failed code => .done (.error (openedError code))
  | .measuring before _ bytes, .stat after => .returning before after bytes
  | .returning _ _ _, .failed code => .done (.error (openedError code))
  | .returning before after bytes, .stat pathAfter =>
    if maxBytes < bytes.length || bytes.length ≠ after.size || !sameMetadata before after ||
        !sameMetadata after pathAfter then
      .done (.error invalidFile)
    else .done (decoded bytes)
  | point, _ => point

/-- What `readSync` may give from a place of an inode: some of what stands there, and nothing only
at the end. -/
def ReadsFrom (content : Content) (place room : ℕ) (chunk : List UInt8) : Prop :=
  chunk.length ≤ room ∧
    match content with
    | .regular bytes => chunk <+: bytes.drop place ∧ (chunk = [] → bytes.length ≤ place)
    | _ => True

/-- What the next call may come back with. Every call may fail. -/
inductive Answers (maxBytes : ℕ) (w : World) : Point → Reply → Prop
  | failed (point : Point) (code : JsString) : Answers maxBytes w point (.failed code)
  | lstat {id : InodeId} (h : w.path = some id) :
    Answers maxBytes w .start (.stat ((w.inode id).metadata id))
  | openNoFollow {id : InodeId} (pathBefore : Metadata) (h : w.path = some id)
    (hlink : (w.inode id).content ≠ .link) :
    Answers maxBytes w (.opening pathBefore) (.opened id)
  | fstatBefore (pathBefore : Metadata) (file : InodeId) :
    Answers maxBytes w (.checking pathBefore file) (.stat ((w.inode file).metadata file))
  | read (before : Metadata) (file : InodeId) (bytes chunk : List UInt8)
    (h : ReadsFrom (w.inode file).content bytes.length (maxBytes + 1 - bytes.length) chunk) :
    Answers maxBytes w (.reading before file bytes) (.data chunk)
  | fstatAfter (before : Metadata) (file : InodeId) (bytes : List UInt8) :
    Answers maxBytes w (.measuring before file bytes) (.stat ((w.inode file).metadata file))
  | lstatAfter {id : InodeId} (before after : Metadata) (bytes : List UInt8)
    (h : w.path = some id) :
    Answers maxBytes w (.returning before after bytes) (.stat ((w.inode id).metadata id))

/-- The reader among the others, with all that there has been since its first call. -/
structure Reading where
  world : World
  point : Point
  past : List World

/-- `MAX_ALLOWED_BYTES`. -/
def maxAllowedBytes : ℕ := 16 * 1024 * 1024

/-- A reader that has not made a call. It makes none with a limit that is not allowed. -/
def Reading.begun (maxBytes : ℕ) (w : World) : Reading :=
  ⟨w, if maxBytes < 1 ∨ maxAllowedBytes < maxBytes then .done (.error invalidFile) else .start, []⟩

/-- The world at an instant after the first call, up to the last one. -/
def Reading.witnessed (r : Reading) (w : World) : List World :=
  match r.point with
  | .start | .done _ => r.past
  | _ => r.past ++ [w]

/-- A step of the others, or a call of the reader. -/
inductive Step (maxBytes : ℕ) : Reading → Reading → Prop
  | foreign {r : Reading} {w : World} (h : Foreign r.world w) :
    Step maxBytes r ⟨w, r.point, r.witnessed w⟩
  | call {r : Reading} {reply : Reply} (hopen : ∀ result, r.point ≠ .done result)
    (h : Answers maxBytes r.world r.point reply) :
    Step maxBytes r ⟨r.world, advance maxBytes r.point reply, r.past ++ [r.world]⟩

/-- Any number of steps. -/
abbrev Run (maxBytes : ℕ) : Reading → Reading → Prop := Relation.ReflTransGen (Step maxBytes)

/-! ## One file all along -/

/-- The text is that of the whole file that stood at the path at one instant of the call. -/
def IsSnapshot (maxBytes : ℕ) (past : List World) (text : JsString) : Prop :=
  ∃ w ∈ past, ∃ id bytes, w.path = some id ∧ (w.inode id).content = .regular bytes ∧
    bytes.length ≤ maxBytes ∧ Utf8.decode bytes = some text

/-- Since the inode was as it is here, it has not been changed, or it shows. -/
structure Since (id : InodeId) (inode : Inode) (w : World) : Prop where
  had : inode.ctimeNs ∈ w.stamps id
  shown : w.inode id = inode ∨ (w.inode id).ctimeNs ≠ inode.ctimeNs

section since

variable {id : InodeId} {inode : Inode} {w w' : World}

theorem Since.now (w : World) (id : InodeId) : Since id (w.inode id) w := ⟨w.stamped id, .inl rfl⟩

theorem Since.foreign (h : Since id inode w) (hf : Foreign w w') : Since id inode w' := by
  refine ⟨hf.stamps id h.had, ?_⟩
  rcases hf.changed id with hsame | hnew
  · rw [hsame]
    exact h.shown
  · exact .inr fun heq => hnew (heq ▸ h.had)

/-- An inode with the same time of change is the same. -/
theorem Since.eq_of_ctime (h : Since id inode w) (hctime : (w.inode id).ctimeNs = inode.ctimeNs) :
    w.inode id = inode := h.shown.resolve_right fun hne => hne hctime

/-- An inode that is as it was has been so before the last step of the others. -/
theorem Since.eq_before (h : Since id inode w) (hf : Foreign w w') (heq : w'.inode id = inode) :
    w.inode id = inode := by
  rcases hf.changed id with hsame | hnew
  · rw [← hsame, heq]
  · rw [heq] at hnew
    exact absurd h.had hnew

end since

/-- What was read is the beginning of the file, unless the file was changed. -/
def ReadSoFar (file : InodeId) (content : List UInt8) (inode : Inode) (w : World)
    (bytes : List UInt8) : Prop := w.inode file = inode → bytes <+: content

/-- The file that stood at the path at the first call. -/
structure FirstSeen (maxBytes : ℕ) (r : Reading) (id : InodeId) (inode : Inode)
    (content : List UInt8) : Prop where
  stood : ∃ w ∈ r.past, w.path = some id ∧ w.inode id = inode
  regular : inode.content = .regular content
  small : content.length ≤ maxBytes
  since : Since id inode r.world

/-- What is true of the reader wherever it is. -/
def Sound (maxBytes : ℕ) (r : Reading) : Prop :=
  match r.point with
  | .start => True
  | .opening pathBefore => ∃ id inode content, FirstSeen maxBytes r id inode content ∧
      pathBefore = inode.metadata id
  | .checking pathBefore _ => ∃ id inode content, FirstSeen maxBytes r id inode content ∧
      pathBefore = inode.metadata id
  | .reading before file bytes => ∃ inode content, FirstSeen maxBytes r file inode content ∧
      before = inode.metadata file ∧ ReadSoFar file content inode r.world bytes
  | .measuring before file bytes => ∃ inode content, FirstSeen maxBytes r file inode content ∧
      before = inode.metadata file ∧ ReadSoFar file content inode r.world bytes
  | .returning before after bytes => ∃ file inode content,
      FirstSeen maxBytes r file inode content ∧ before = inode.metadata file ∧
        (after.ctimeNs = inode.ctimeNs → bytes <+: content ∧ after.size = content.length)
  | .done result => ∀ text, result = .ok (.present text) → IsSnapshot maxBytes r.past text

section steps

variable {maxBytes : ℕ} {r : Reading} {id : InodeId} {inode : Inode} {content : List UInt8}

theorem FirstSeen.foreign (h : FirstSeen maxBytes r id inode content) {w : World}
    (hf : Foreign r.world w) (point : Point) :
    FirstSeen maxBytes ⟨w, point, r.witnessed w⟩ id inode content := by
  obtain ⟨⟨before, hbefore, hstood⟩, hregular, hsmall, hsince⟩ := h
  refine ⟨⟨before, ?_, hstood⟩, hregular, hsmall, hsince.foreign hf⟩
  change before ∈ r.witnessed w
  unfold Reading.witnessed
  split
  · exact hbefore
  · exact hbefore
  · exact List.mem_append_left _ hbefore

theorem FirstSeen.call (h : FirstSeen maxBytes r id inode content) (point : Point) :
    FirstSeen maxBytes ⟨r.world, point, r.past ++ [r.world]⟩ id inode content := by
  obtain ⟨⟨before, hbefore, hstood⟩, hregular, hsmall, hsince⟩ := h
  exact ⟨⟨before, List.mem_append_left _ hbefore, hstood⟩, hregular, hsmall, hsince⟩

theorem ReadSoFar.foreign {file : InodeId} {w w' : World} {bytes : List UInt8}
    (h : ReadSoFar file content inode w bytes) (hsince : Since file inode w)
    (hf : Foreign w w') : ReadSoFar file content inode w' bytes :=
  fun heq => h (hsince.eq_before hf heq)

/-- Others do not change what is true of the reader. -/
theorem Sound.foreign (h : Sound maxBytes r) {w : World} (hf : Foreign r.world w) :
    Sound maxBytes ⟨w, r.point, r.witnessed w⟩ := by
  have hseen := fun id inode content (h : FirstSeen maxBytes r id inode content) =>
    h.foreign hf r.point
  unfold Sound at h ⊢
  dsimp only
  cases hpoint : r.point with
  | start => trivial
  | opening pathBefore =>
    rw [hpoint] at h hseen
    obtain ⟨id, inode, content, hfirst, hbefore⟩ := h
    exact ⟨id, inode, content, hseen _ _ _ hfirst, hbefore⟩
  | checking pathBefore file =>
    rw [hpoint] at h hseen
    obtain ⟨id, inode, content, hfirst, hbefore⟩ := h
    exact ⟨id, inode, content, hseen _ _ _ hfirst, hbefore⟩
  | reading before file bytes =>
    rw [hpoint] at h hseen
    obtain ⟨inode, content, hfirst, hbefore, hread⟩ := h
    exact ⟨inode, content, hseen _ _ _ hfirst, hbefore, hread.foreign hfirst.since hf⟩
  | measuring before file bytes =>
    rw [hpoint] at h hseen
    obtain ⟨inode, content, hfirst, hbefore, hread⟩ := h
    exact ⟨inode, content, hseen _ _ _ hfirst, hbefore, hread.foreign hfirst.since hf⟩
  | returning before after bytes =>
    rw [hpoint] at h hseen
    obtain ⟨file, inode, content, hfirst, hbefore, hread⟩ := h
    exact ⟨file, inode, content, hseen _ _ _ hfirst, hbefore, hread⟩
  | done result =>
    rw [hpoint] at h
    have hpast : r.witnessed w = r.past := by
      unfold Reading.witnessed
      rw [hpoint]
    rw [hpast]
    exact h

theorem sameMetadata_iff (left right : Metadata) : sameMetadata left right = true ↔
    left.id = right.id ∧ left.mode = right.mode ∧ left.size = right.size ∧
      left.mtimeNs = right.mtimeNs ∧ left.ctimeNs = right.ctimeNs := by
  unfold sameMetadata
  exact decide_eq_true_iff

theorem decoded_present {bytes : List UInt8} {text : JsString}
    (h : decoded bytes = .ok (.present text)) : Utf8.decode bytes = some text := by
  unfold decoded at h
  split at h
  · cases h
  · split at h
    · rename_i found hfound
      cases h
      exact hfound
    · cases h

/-- A call that ends with an error makes no claim. -/
theorem sound_error (world : World) (past : List World) (message : JsString) :
    Sound maxBytes ⟨world, .done (.error message), past⟩ := fun _ h => (nomatch h)

/-- A regular file is one that has bytes. -/
theorem regular_of_isFile (h : (inode.metadata id).isFile = true) :
    ∃ content, inode.content = .regular content ∧ (inode.metadata id).size = content.length := by
  unfold Inode.metadata at h ⊢
  cases hcontent : inode.content with
  | regular bytes => exact ⟨bytes, rfl, by rw [Content.size]⟩
  | link | other | free =>
    rw [hcontent] at h
    cases h

/-- Some of what stands behind the beginning makes a longer beginning. -/
theorem append_prefix_of_drop {bytes chunk content : List UInt8} (h : bytes <+: content)
    (hchunk : chunk <+: content.drop bytes.length) : bytes ++ chunk <+: content := by
  obtain ⟨rest, rfl⟩ := h
  rw [List.drop_left] at hchunk
  exact (List.prefix_append_right_inj bytes).2 hchunk

/-- A call of the reader keeps what is true of it. -/
theorem Sound.call (h : Sound maxBytes r) {reply : Reply}
    (ha : Answers maxBytes r.world r.point reply) :
    Sound maxBytes ⟨r.world, advance maxBytes r.point reply, r.past ++ [r.world]⟩ := by
  obtain ⟨w, point, past⟩ := r
  dsimp only at ha ⊢
  cases ha with
  | failed point code =>
    cases point with
    | start =>
      rw [advance]
      split
      · exact fun _ heq => (nomatch heq)
      · exact sound_error _ _ _
    | opening | checking | reading | measuring | returning => exact sound_error _ _ _
    | done result =>
      exact fun text htext => by
        obtain ⟨before, hbefore, hsnapshot⟩ := h text htext
        exact ⟨before, List.mem_append_left _ hbefore, hsnapshot⟩
  | lstat hpath =>
    rename_i id
    rw [advance]
    split
    · exact sound_error _ _ _
    · rename_i hchecks
      rw [Bool.not_eq_true, Bool.or_eq_false_iff, Bool.or_eq_false_iff, Bool.not_eq_false',
        decide_eq_false_iff_not, Nat.not_lt] at hchecks
      obtain ⟨content, hcontent, hsize⟩ := regular_of_isFile hchecks.1.1
      exact ⟨id, w.inode id, content, ⟨⟨w, List.mem_append_right _ (List.mem_singleton_self w),
        hpath, rfl⟩, hcontent, hsize ▸ hchecks.2, Since.now w id⟩, rfl⟩
  | openNoFollow pathBefore hpath hlink =>
    obtain ⟨id, inode, content, hfirst, hbefore⟩ := h
    exact ⟨id, inode, content, hfirst.call _, hbefore⟩
  | fstatBefore pathBefore file =>
    obtain ⟨id, inode, content, hfirst, rfl⟩ := h
    rw [advance]
    split
    · exact sound_error _ _ _
    · rename_i hchecks
      rw [Bool.not_eq_true, Bool.or_eq_false_iff, Bool.or_eq_false_iff, Bool.not_eq_false',
        Bool.not_eq_false', sameMetadata_iff] at hchecks
      obtain ⟨hid, -, -, -, hctime⟩ := hchecks.1.2
      -- the open file is the one that was seen, and has not been changed
      obtain rfl : id = file := hid
      have heq : w.inode id = inode := hfirst.since.eq_of_ctime hctime.symm
      exact ⟨inode, content, hfirst.call _, by rw [heq], fun _ => List.nil_prefix⟩
  | read before file bytes chunk hchunk =>
    obtain ⟨inode, content, hfirst, rfl, hread⟩ := h
    have hmore : ReadSoFar file content inode w (bytes ++ chunk) := by
      intro heq
      have hfrom := hchunk.2
      rw [heq, hfirst.regular] at hfrom
      exact append_prefix_of_drop (hread heq) hfrom.1
    rw [advance]
    split
    · exact ⟨inode, content, hfirst.call _, rfl, hmore⟩
    · exact ⟨inode, content, hfirst.call _, rfl, hmore⟩
  | fstatAfter before file bytes =>
    obtain ⟨inode, content, hfirst, rfl, hread⟩ := h
    refine ⟨file, inode, content, hfirst.call _, rfl, fun hctime => ?_⟩
    have heq : w.inode file = inode := hfirst.since.eq_of_ctime hctime
    refine ⟨hread heq, ?_⟩
    rw [heq]
    unfold Inode.metadata
    rw [hfirst.regular]
    rfl
  | lstatAfter before after bytes hpath =>
    obtain ⟨file, inode, content, hfirst, rfl, hread⟩ := h
    rw [advance]
    split
    · exact sound_error _ _ _
    · rename_i hchecks
      rw [Bool.not_eq_true, Bool.or_eq_false_iff, Bool.or_eq_false_iff, Bool.or_eq_false_iff,
        Bool.not_eq_false', Bool.not_eq_false', sameMetadata_iff, decide_eq_false_iff_not,
        decide_eq_false_iff_not, not_not] at hchecks
      obtain ⟨-, -, -, -, hctime⟩ := hchecks.1.2
      obtain ⟨hfront, hsize⟩ := hread hctime.symm
      have hwhole : bytes = content := hfront.eq_of_length (hchecks.1.1.2.trans hsize)
      obtain ⟨seen, hseen, hstood, hinode⟩ := (hfirst.call .start).stood
      intro text htext
      exact ⟨seen, hseen, file, content, hstood, hinode ▸ hfirst.regular, hfirst.small,
        decoded_present (hwhole ▸ htext)⟩

theorem Sound.run {r' : Reading} (h : Sound maxBytes r) (hrun : Run maxBytes r r') :
    Sound maxBytes r' := by
  induction hrun with
  | refl => exact h
  | tail _ hlast ih =>
    cases hlast with
    | foreign hf => exact ih.foreign hf
    | call _ ha => exact ih.call ha

end steps

/-- **What is read is a snapshot**: when the reader comes back with a text, it is that of a whole
regular file within the limit, as it stood at the path at one instant between the first call and the
last. -/
theorem present_isSnapshot {maxBytes : ℕ} {w : World} {r : Reading} {text : JsString}
    (hrun : Run maxBytes (Reading.begun maxBytes w) r)
    (hdone : r.point = .done (.ok (.present text))) : IsSnapshot maxBytes r.past text := by
  have hbegun : Sound maxBytes (Reading.begun maxBytes w) := by
    unfold Reading.begun
    split
    · exact sound_error _ _ _
    · trivial
  have hsound := hbegun.run hrun
  unfold Sound at hsound
  rw [hdone] at hsound
  exact hsound text rfl

/-! ## Without others -/

/-- What is read of a file that nobody changes. -/
def managedText (maxBytes : ℕ) (bytes : List UInt8) : Except JsString ManagedStateTextFile :=
  if maxBytes < bytes.length then .error invalidFile else decoded bytes

section alone

variable {maxBytes : ℕ} {w : World} {id : InodeId} {bytes : List UInt8}

theorem sameMetadata_self (metadata : Metadata) : sameMetadata metadata metadata = true :=
  (sameMetadata_iff _ _).2 ⟨rfl, rfl, rfl, rfl, rfl⟩

theorem metadata_regular {inode : Inode} (h : inode.content = .regular bytes) (id : InodeId) :
    (inode.metadata id).isFile = true ∧ (inode.metadata id).isSymbolicLink = false ∧
      (inode.metadata id).size = bytes.length := by
  unfold Inode.metadata
  rw [h]
  exact ⟨rfl, rfl, rfl⟩

/-- One more call, and where it leads to. -/
theorem run_call {start : Reading} {point next : Point} {past : List World} {reply : Reply}
    (hrun : Run maxBytes start ⟨w, point, past⟩) (hopen : ∀ result, point ≠ .done result)
    (ha : Answers maxBytes w point reply) (hnext : advance maxBytes point reply = next) :
    Run maxBytes start ⟨w, next, past ++ [w]⟩ :=
  hnext ▸ hrun.tail (.call hopen ha)

/-- The reading up to the end of the file. -/
theorem run_read {start : Reading} {metadata : Metadata} {past : List World}
    (hcontent : (w.inode id).content = .regular bytes) (hsmall : bytes.length ≤ maxBytes)
    (hrun : Run maxBytes start ⟨w, .reading metadata id [], past⟩) :
    ∃ past', Run maxBytes start ⟨w, .measuring metadata id bytes, past'⟩ := by
  by_cases hempty : bytes = []
  · subst hempty
    have hend : Answers maxBytes w (.reading metadata id []) (.data []) := by
      refine .read metadata id [] [] ⟨Nat.zero_le _, ?_⟩
      rw [hcontent]
      exact ⟨List.nil_prefix, fun _ => Nat.le_refl 0⟩
    refine ⟨_, run_call hrun (fun _ h => (nomatch h)) hend ?_⟩
    rw [advance, if_pos (.inl rfl)]
    rfl
  · have hwhole : Answers maxBytes w (.reading metadata id []) (.data bytes) := by
      refine .read metadata id [] bytes ⟨Nat.le_succ_of_le hsmall, ?_⟩
      rw [hcontent]
      exact ⟨List.prefix_refl _, fun h => absurd h hempty⟩
    have hend : Answers maxBytes w (.reading metadata id bytes) (.data []) := by
      refine .read metadata id bytes [] ⟨Nat.zero_le _, ?_⟩
      rw [hcontent]
      exact ⟨List.nil_prefix, fun _ => Nat.le_refl _⟩
    have hread := run_call hrun (fun _ h => (nomatch h)) hwhole
      (if_neg (not_or.2 ⟨hempty, Nat.not_le.2 (Nat.lt_succ_of_le hsmall)⟩))
    refine ⟨_, run_call hread (fun _ h => (nomatch h)) hend ?_⟩
    rw [advance, if_pos (.inl rfl), List.append_nil]
    rfl

/-- The reader alone comes back with the text of the file. -/
theorem exists_run_managedText (hlimit : 1 ≤ maxBytes ∧ maxBytes ≤ maxAllowedBytes)
    (hpath : w.path = some id) (hcontent : (w.inode id).content = .regular bytes) :
    ∃ past, Run maxBytes (Reading.begun maxBytes w) ⟨w, .done (managedText maxBytes bytes), past⟩ := by
  obtain ⟨hfile, hlink, hsize⟩ := metadata_regular hcontent id
  have hbegun : Reading.begun maxBytes w = ⟨w, .start, []⟩ := by
    unfold Reading.begun
    rw [if_neg (by omega)]
  rw [hbegun]
  have hstart : Run maxBytes ⟨w, .start, []⟩ ⟨w, .start, []⟩ := .refl
  unfold managedText
  split
  · rename_i hlarge
    refine ⟨_, run_call hstart (fun _ h => (nomatch h)) (.lstat hpath) ?_⟩
    rw [advance, hfile, hlink, hsize, if_pos (by simpa using hlarge)]
  · rename_i hsmall
    have hchecks : ¬(!((w.inode id).metadata id).isFile || ((w.inode id).metadata id).isSymbolicLink ||
        decide (maxBytes < ((w.inode id).metadata id).size)) = true := by
      rw [hfile, hlink, hsize]
      simpa using hsmall
    have hchecks' : ¬(!((w.inode id).metadata id).isFile ||
        !sameMetadata ((w.inode id).metadata id) ((w.inode id).metadata id) ||
        decide (maxBytes < ((w.inode id).metadata id).size)) = true := by
      rw [hfile, sameMetadata_self, hsize]
      simpa using hsmall
    have hseen := run_call hstart (fun _ h => (nomatch h)) (.lstat hpath) (if_neg hchecks)
    have hopened := run_call hseen (fun _ h => (nomatch h))
      (.openNoFollow _ hpath (by rw [hcontent]; exact Content.noConfusion)) rfl
    have hchecked := run_call hopened (fun _ h => (nomatch h)) (.fstatBefore _ id)
      (if_neg hchecks')
    obtain ⟨past, hread⟩ := run_read hcontent (Nat.le_of_not_lt hsmall) hchecked
    have hmeasured := run_call hread (fun _ h => (nomatch h)) (.fstatAfter _ id bytes) rfl
    refine ⟨_, run_call hmeasured (fun _ h => (nomatch h)) (.lstatAfter _ _ bytes hpath) ?_⟩
    refine if_neg ?_
    simpa [sameMetadata_self, hsize] using hsmall

end alone

/-- A file with two bytes, at the path. -/
def sampleWorld : World where
  path := some ⟨1, 1⟩
  inode _ := ⟨.regular [104, 105], 0, 0, 0⟩
  stamps _ := {0}
  stamped _ := rfl

/-- It is read, and what is read is a snapshot. -/
theorem sampleWorld_isSnapshot : ∃ r, Run 10 (Reading.begun 10 sampleWorld) r ∧
    r.point = .done (.ok (.present (js "hi"))) ∧ IsSnapshot 10 r.past (js "hi") := by
  have hlimit : 1 ≤ 10 ∧ 10 ≤ maxAllowedBytes := by decide
  obtain ⟨past, hrun⟩ := exists_run_managedText hlimit
    (show sampleWorld.path = some ⟨1, 1⟩ from rfl) (show _ = Content.regular [104, 105] from rfl)
  rw [show managedText 10 [104, 105] = .ok (.present (js "hi")) from rfl] at hrun
  exact ⟨_, hrun, rfl, present_isSnapshot hrun rfl⟩

end ManagedFiles
end Autopilot
