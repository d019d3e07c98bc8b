import CrashDump.Proofs.ParseLoops

/-! # The parse refines decoding in place

The parse walks the image with one cursor and makes excursions to the names on the way;
decoding in place takes every record at an offset computed beforehand. The two agree on the
dump, the notices and the reason for a rejection, and no other fault leaves the parse.
-/
namespace CrashDump

namespace Contents

/-- What is there once one more stream is. -/
def add (c : Contents) (x : Stream) : Contents where
  threads := c.threads ++ x.threadList
  modules := c.modules ++ x.moduleList
  segments := c.segments ++ x.segmentList
  regions := c.regions ++ x.regionList
  handles := c.handles ++ x.handleList
  systemInfo := x.systemInfo?.or c.systemInfo
  exception := x.exception?.or c.exception
  miscInfo := x.miscInfo?.or c.miscInfo

theorem ofStreams_concat (xs : List Stream) (x : Stream) :
    ofStreams (xs ++ [x]) = (ofStreams xs).add x := by
  simp [ofStreams, add]

theorem foldl_add_ofStreams (xs ys : List Stream) :
    ys.foldl add (ofStreams xs) = ofStreams (xs ++ ys) := by
  induction ys generalizing xs with
  | nil => simp
  | cons y ys ih =>
    rw [List.foldl_cons, ← ofStreams_concat, ih, List.append_assoc, List.singleton_append]

end Contents

/-- What decoding one stream comes to, a short read not yet put down to the stream. -/
def Decoding.ofStream : Except ShortRead (Except Rejection Decoded) → Decoding (List Stream)
  | .error short => ⟨[], .error (.short short)⟩
  | .ok (.error r) => ⟨[], .error r⟩
  | .ok (.ok x) => ⟨x.notices, .ok [x.stream]⟩

/-- A part of the parse that was begun in a state has given notice of, collected or rejected
what decoding in place does, and has left the cursor open. -/
inductive Agrees (s : ParseState) :
    Decoding (List Stream) → EStateM.Result ParseFailure ParseState Unit → Prop
  | taken {ns : List Notice} {xs : List Stream} {t : ParseState} (q : Nat)
      (hc : t.cursor = { s.cursor with place := some q })
      (hn : t.notices.toList = s.notices.toList ++ ns)
      (hx : t.collected.contents = xs.foldl Contents.add s.collected.contents) :
      Agrees s ⟨ns, .ok xs⟩ (.ok () t)
  | rejected {ns : List Notice} {r : Rejection} {t : ParseState}
      (hn : t.notices.toList = s.notices.toList ++ ns) :
      Agrees s ⟨ns, .error r⟩ (.error (.rejected r) t)

theorem Agrees.after {s t : ParseState} {q : Nat} {ns : List Notice} {x : Stream}
    (hc : t.cursor = { s.cursor with place := some q })
    (hn : t.notices.toList = s.notices.toList ++ ns)
    (hx : t.collected.contents = s.collected.contents.add x)
    {later : Decoding (List Stream)} {y : EStateM.Result ParseFailure ParseState Unit}
    (h : Agrees t later y) :
    Agrees s ⟨ns ++ later.notices, (x :: ·) <$> later.result⟩ y := by
  cases h with
  | taken q' hc' hn' hx' =>
    refine .taken q' ?_ ?_ ?_
    · rw [hc', hc]
    · rw [hn', hn, List.append_assoc]
    · rw [hx', hx, List.foldl_cons]
  | rejected hn' =>
    refine .rejected ?_
    rw [hn', hn, List.append_assoc]

namespace Parse
variable {α : Type} {s : ParseState} {p : Nat}

/-- Keeping records one by one makes up the stream of all of them. -/
structure Builds (f : α → Collected → Collected) (x : List α → Stream) : Prop where
  nil : ∀ c : Contents, c.add (x []) = c
  cons : ∀ (c : Collected) (r : α) (rs : List α),
    (f r c).contents.add (x rs) = c.contents.add (x (r :: rs))

theorem Builds.contents_foldl {f : α → Collected → Collected} {x : List α → Stream}
    (h : Builds f x) (rs : List α) (c : Collected) :
    (rs.foldl (fun c r => f r c) c).contents = c.contents.add (x rs) := by
  induction rs generalizing c with
  | nil => rw [List.foldl_nil, h.nil]
  | cons r rs ih => rw [List.foldl_cons, ih, h.cons]

section Records
variable [Record α] [Record.Readable α]

theorem record_agrees {k : α → Parse Unit} {k' : α → Except ShortRead (Except Rejection Decoded)}
    (h : ∀ r, Agrees s (.ofStream (k' r)) (k r (s.moved (p + Record.size α)))) :
    Agrees s (.ofStream (Record.readAt? s.cursor.image p >>= k'))
      ((record α >>= k) (s.moved p)) := by
  by_cases hf : s.cursor.image.Fits p (Record.size α)
  · rw [bind_ok (record_of_fits hf), Record.readAt?_of_fits hf]
    exact h _
  · rw [bind_error (record_of_not_fits hf), Record.readAt?_of_not_fits hf]
    exact .rejected (by simp)

variable {keep : α → Parse Unit} {f : α → Collected → Collected} {x : List α → Stream}

theorem each_agrees (hk : Keeps s.cursor.image keep f) (hx : Builds f x) (count : Nat)
    (hp : p + Record.size α * count < Cursor.reach) :
    Agrees s (.ofStream (do
        let rs ← Record.readAll s.cursor.image p count
        return .ok ⟨x rs, []⟩))
      (each α keep count (s.moved p)) := by
  have h := each_run hk count rfl hp
  rw [Record.readAll]
  rcases hr : Record.readRun (α := α) s.cursor.image p count with ⟨rs, cut⟩
  rw [hr] at h
  cases cut with
  | none =>
    obtain ⟨q, hq⟩ := h
    rw [hq]
    exact .taken q rfl (by simp) (by simp [hx.contents_foldl])
  | some short =>
    obtain ⟨t, ht, hn⟩ := h
    rw [ht]
    exact .rejected (by simp [hn])

theorem eachUpTo_agrees (hk : Keeps s.cursor.image keep f) (hx : Builds f x)
    (cut : Nat → Notice) (count : Nat) (hp : p + Record.size α * count < Cursor.reach) :
    Agrees s (.ofStream (.ok (.ok ⟨x (Record.readRun s.cursor.image p count).1,
        Decoded.cutNotice cut (Record.readRun (α := α) s.cursor.image p count)⟩)))
      (eachUpTo α cut keep 0 count (s.moved p)) := by
  obtain ⟨q, hq⟩ := eachUpTo_run hk cut count 0 rfl hp
  rw [hq]
  refine .taken q rfl ?_ ?_
  · simp [ParseState.noting]
  · simp [hx.contents_foldl]

end Records

theorem uint32_lt_reach (n : UInt32) : n.toNat < Cursor.reach :=
  Nat.lt_trans n.toNat_lt (by decide)

theorem keeps_keepModule (d : Image) :
    Keeps d keepModule fun r => Collected.addModule (r.named d) := by
  intro r s p hd hp
  subst hd
  rw [keepModule, bind_ok (readName_run hp (uint32_lt_reach _))]
  rfl

theorem keeps_keepHandle (d : Image) :
    Keeps d keepHandle fun r => Collected.addHandle (r.named d) := by
  intro r s p hd hp
  subst hd
  rw [keepHandle, bind_ok (readName_run hp (uint32_lt_reach _)),
    bind_ok (readName_run hp (uint32_lt_reach _))]
  rfl

theorem keeps_keepRange (d : Image) :
    Keeps d keepRange fun r => Collected.addSegments (Segment.placed [r]) := by
  intro r s p _ _
  by_cases h : r.memory.dataSize = 0
  · have he : Segment.placed [r] = [] := by simp [Segment.placed, h]
    simp only [keepRange, if_pos h, he]
    rfl
  · have he : Segment.placed [r] =
        [⟨r.start.toNat, r.memory.dataSize.toNat, r.memory.rva.toNat⟩] := by
      simp [Segment.placed, h]
    simp only [keepRange, if_neg h, he]
    rfl

theorem builds_threads : Builds Collected.addThread .threads where
  nil c := by simp [Contents.add]
  cons c r rs := by simp [Contents.add, Collected.contents, Collected.addThread]

theorem builds_modules (d : Image) :
    Builds (fun r => Collected.addModule (r.named d)) fun rs =>
      .modules (rs.map (ModuleRecord.named d)) where
  nil c := by simp [Contents.add]
  cons c r rs := by simp [Contents.add, Collected.contents, Collected.addModule]

theorem builds_handles (d : Image) :
    Builds (fun r => Collected.addHandle (r.named d)) fun rs =>
      .handles (rs.map (HandleRecord.named d)) where
  nil c := by simp [Contents.add]
  cons c r rs := by simp [Contents.add, Collected.contents, Collected.addHandle]

theorem builds_regions : Builds Collected.addRegion .regions where
  nil c := by simp [Contents.add]
  cons c r rs := by simp [Contents.add, Collected.contents, Collected.addRegion]

theorem builds_segments :
    Builds (fun r => Collected.addSegments (Segment.placed [r])) fun rs =>
      .segments (Segment.placed rs) where
  nil c := by simp [Contents.add, Segment.placed]
  cons c r rs := by
    by_cases h : r.memory.dataSize = 0 <;>
      simp [Contents.add, Collected.contents, Collected.addSegments, Segment.placed, h]

theorem contents_setSystemInfo (x : SystemInfo) (c : Collected) :
    (c.setSystemInfo x).contents = c.contents.add (.systemInfo x) := by
  simp [Contents.add, Collected.contents, Collected.setSystemInfo]

theorem contents_setException (x : ExceptionInfo) (c : Collected) :
    (c.setException x).contents = c.contents.add (.exception x) := by
  simp [Contents.add, Collected.contents, Collected.setException]

theorem contents_setMiscInfo (x : MiscInfo) (c : Collected) :
    (c.setMiscInfo x).contents = c.contents.add (.miscInfo x) := by
  simp [Contents.add, Collected.contents, Collected.setMiscInfo]

theorem contents_addSegments (ss : List Segment) (c : Collected) :
    (c.addSegments ss).contents = c.contents.add (.segments ss) := by
  simp [Contents.add, Collected.contents, Collected.addSegments]

/-- Ranges that hold memory lie back to back, so an empty one in between changes nothing. -/
theorem stored_eq_packed (baseRva : Nat) (ranges : List MemoryRange64) :
    stored baseRva ranges = Segment.packed baseRva ranges := by
  induction ranges generalizing baseRva with
  | nil => rfl
  | cons r rs ih =>
    by_cases h : r.dataSize = 0
    · rw [Segment.packed, if_pos h, ← ih]
      simp [stored, h]
    · rw [Segment.packed, if_neg h, ← ih]
      simp [stored, h]

theorem threads_agrees (s : ParseState) {p : Nat} (hp : p < 2 ^ 32) :
    Agrees s (.ofStream (Stream.decodeKind s.cursor.image p .threadList))
      (threads (s.moved p)) := by
  rw [Stream.decodeKind, Stream.decodeThreads, map_bind]
  apply record_agrees
  intro count
  have hc := count.toNat_lt
  rw [map_bind]
  exact each_agrees (keeps_collect _ _) builds_threads _ (by simp [Cursor.reach]; omega)

theorem modules_agrees (s : ParseState) {p : Nat} (hp : p < 2 ^ 32) :
    Agrees s (.ofStream (Stream.decodeKind s.cursor.image p .moduleList))
      (modules (s.moved p)) := by
  rw [Stream.decodeKind, Stream.decodeModules, map_bind]
  apply record_agrees
  intro count
  have hc := count.toNat_lt
  rw [map_bind]
  exact each_agrees (keeps_keepModule _) (builds_modules _) _ (by simp [Cursor.reach]; omega)

theorem memory_agrees (s : ParseState) {p : Nat} (hp : p < 2 ^ 32) :
    Agrees s (.ofStream (Stream.decodeKind s.cursor.image p .memoryList))
      (memory (s.moved p)) := by
  rw [Stream.decodeKind, Stream.decodeMemory, map_bind]
  apply record_agrees
  intro count
  have hc : min count.toNat listLimit ≤ 10000 := Nat.min_le_right _ _
  exact eachUpTo_agrees (keeps_keepRange _) builds_segments .memoryCut _
    (by simp [Cursor.reach]; omega)

theorem handles_agrees (s : ParseState) {p : Nat} (hp : p < 2 ^ 32) :
    Agrees s (.ofStream (Stream.decodeKind s.cursor.image p .handleData))
      (handles (s.moved p)) := by
  rw [Stream.decodeKind, Stream.decodeHandles, map_bind]
  apply record_agrees
  intro header
  have hc := header.descriptorCount.toNat_lt
  exact eachUpTo_agrees (keeps_keepHandle _) (builds_handles _) .handlesCut _
    (by simp [Cursor.reach]; omega)

theorem regions_agrees (s : ParseState) {p : Nat} (hp : p < 2 ^ 32) :
    Agrees s (.ofStream (Stream.decodeKind s.cursor.image p .memoryInfoList))
      (regions (s.moved p)) := by
  rw [Stream.decodeKind, Stream.decodeRegions]
  apply record_agrees
  intro header
  by_cases he : header.entrySize.toNat = Record.size Region
  · have hc : min header.entryCount.toNat listLimit ≤ 10000 := Nat.min_le_right _ _
    simp only [ne_eq, he, not_true_eq_false, if_false]
    exact eachUpTo_agrees (keeps_collect _ _) builds_regions .regionsCut _
      (by simp [Cursor.reach]; omega)
  · simp only [ne_eq, he, not_false_eq_true, if_true]
    exact .rejected (by simp)

theorem systemInfo_agrees (s : ParseState) {p : Nat} (hp : p < 2 ^ 32) :
    Agrees s (.ofStream (Stream.decodeKind s.cursor.image p .systemInfo))
      (systemInfo (s.moved p)) := by
  rw [Stream.decodeKind, Stream.decodeSystem, map_bind]
  apply record_agrees
  intro r
  have hq : p + Record.size SystemRecord < Cursor.reach := by simp [Cursor.reach]; omega
  simp only [bind_ok (readName_run hq (uint32_lt_reach _))]
  exact .taken (p + Record.size SystemRecord) rfl (by simp) (contents_setSystemInfo _ _)

theorem exception_agrees (s : ParseState) (p : Nat) :
    Agrees s (.ofStream (Stream.decodeKind s.cursor.image p .exception))
      (exception (s.moved p)) := by
  rw [Stream.decodeKind, map_eq_pure_bind]
  apply record_agrees
  intro e
  exact .taken (p + Record.size ExceptionInfo) rfl (by simp) (contents_setException _ _)

theorem miscInfo_agrees (s : ParseState) (p : Nat) :
    Agrees s (.ofStream (Stream.decodeKind s.cursor.image p .miscInfo))
      (miscInfo (s.moved p)) := by
  rw [Stream.decodeKind, map_eq_pure_bind]
  apply record_agrees
  intro m
  exact .taken (p + Record.size MiscInfo) rfl (by simp) (contents_setMiscInfo _ _)

theorem noteCap_run (s : ParseState) (p declared : Nat) :
    noteCap declared (s.moved p) = .ok () ((s.noting (Decoded.capNotice declared)).moved p) := by
  by_cases h : listLimit < declared
  · simp only [noteCap, Decoded.capNotice, if_pos h]
    rfl
  · simp only [noteCap, Decoded.capNotice, if_neg h, ParseState.noting_nil]
    rfl

theorem memory64_agrees (s : ParseState) (p : Nat) :
    Agrees s (.ofStream (Stream.decodeKind s.cursor.image p .memory64List))
      (memory64 (s.moved p)) := by
  rw [Stream.decodeKind, Stream.decodeMemory64, map_bind]
  apply record_agrees
  intro header
  obtain ⟨q, hq⟩ := ranges64_run (min header.rangeCount.toNat listLimit) #[]
    (s := s.noting (Decoded.capNotice header.rangeCount.toNat))
    (p := p + Record.size Memory64Header)
  simp only [bind_ok (noteCap_run _ _ _), bind_ok hq, stored_eq_packed]
  refine .taken q rfl ?_ ?_
  · simp [ParseState.noting]
  · simpa using contents_addSegments _ _

/-- Whatever the kind, a stream is taken, rejected or cut short as decoding in place has it. -/
theorem stream_agrees (s : ParseState) {p : Nat} (hp : p < 2 ^ 32) (kind : StreamKind) :
    Agrees s (.ofStream (Stream.decodeKind s.cursor.image p kind)) (stream kind (s.moved p)) := by
  cases kind with
  | threadList => exact threads_agrees s hp
  | moduleList => exact modules_agrees s hp
  | memoryList => exact memory_agrees s hp
  | exception => exact exception_agrees s p
  | systemInfo => exact systemInfo_agrees s hp
  | memory64List => exact memory64_agrees s p
  | handleData => exact handles_agrees s hp
  | miscInfo => exact miscInfo_agrees s p
  | memoryInfoList => exact regions_agrees s hp

/-- Within a stream nothing but its missing bytes counts as a short read. -/
theorem decodeKind_rejected {d : Image} {kind : StreamKind} {r : Rejection}
    (h : Stream.decodeKind d p kind = .ok (.error r)) : ∃ found, r = .foreignEntrySize found := by
  have hmap {β : Type} {f : β → Decoded} {x : Except ShortRead β}
      (hx : (fun b => Except.ok (f b)) <$> x = .ok (Except.error (α := Decoded) r)) : False := by
    cases x <;> simp [Functor.map, Except.map] at hx
  cases kind with
  | memoryInfoList =>
    rw [Stream.decodeKind, Stream.decodeRegions] at h
    by_cases hf : d.Fits p (Record.size RegionListHeader)
    · rw [Record.readAt?_of_fits hf] at h
      simp only [bind, Except.bind] at h
      split at h
      · cases h
        exact ⟨_, rfl⟩
      · cases h
    · rw [Record.readAt?_of_not_fits hf] at h
      cases h
  | _ => exact (hmap h).elim

theorem entry_agrees (s : ParseState) (p : Nat) (e : DirectoryEntry) :
    Agrees s (.ofStream (.ok (Stream.decode s.cursor.image e))) (entry e (s.moved p)) := by
  rw [entry, Stream.decode]
  cases hk : e.kind? with
  | none => exact .taken p rfl (by simp) (by simp [Contents.add])
  | some kind =>
    have hr := e.location.rva.toNat_lt
    have hs := stream_agrees s hr kind
    simp only [bind_ok (seek_run (uint32_lt_reach _)), blaming]
    generalize stream kind (s.moved e.location.rva.toNat) = y at hs ⊢
    -- A bare short read is put down to the stream; a rejection with a reason stays as it is.
    cases hx : Stream.decodeKind s.cursor.image e.location.rva.toNat kind with
    | error short =>
      rw [hx] at hs
      cases hs with
      | rejected hn => exact .rejected hn
    | ok y =>
      rw [hx] at hs
      cases y with
      | ok x =>
        cases hs with
        | taken q hc hn hx => exact .taken q hc hn hx
      | error r =>
        obtain ⟨found, rfl⟩ := decodeKind_rejected hx
        cases hs with
        | rejected hn => exact .rejected hn

theorem streams_agrees (es : List DirectoryEntry) (s : ParseState) (p : Nat) :
    Agrees s (Contents.decodeStreams s.cursor.image es) (streams es (s.moved p)) := by
  induction es generalizing s p with
  | nil => exact .taken p rfl (by simp) rfl
  | cons e es ih =>
    have he := entry_agrees s p e
    rw [Contents.decodeStreams, streams]
    generalize hy : entry e (s.moved p) = y at he
    cases hx : Stream.decode s.cursor.image e with
    | error r =>
      rw [hx] at he
      cases he with
      | rejected hn =>
        rw [bind_error hy]
        exact .rejected hn
    | ok x =>
      rw [hx] at he
      cases he with
      | @taken _ _ t q hc hn hx =>
        -- The cursor is still open, so the state is one to go on from.
        have ht : t.moved q = t := by rw [ParseState.moved, hc]; exact hc ▸ rfl
        have hrest := ih t q
        rw [ht, hc] at hrest
        rw [bind_ok hy]
        exact hrest.after hc hn hx

theorem header_run {d : Image} (s : ParseState) (p : Nat) (hd : s.cursor.image = d) :
    match Header.decode d with
    | .error r => ∃ t, header (s.moved p) = .error (.rejected r) t ∧ t.notices = s.notices
    | .ok h => header (s.moved p) = .ok h (s.moved (Record.size Header)) := by
  subst hd
  have hseek : access (Cursor.seek 0) (s.moved p) = .ok () (s.moved 0) :=
    seek_run (show (0 : Nat) < Cursor.reach by decide)
  rw [Header.decode, header, bind_ok hseek]
  by_cases hf : s.cursor.image.Fits 0 (Record.size Header)
  · rw [Record.readAt?_of_fits hf, bind_ok (record_of_fits hf), Nat.zero_add]
    generalize (Record.readAt s.cursor.image 0 : Header) = h
    by_cases hm : h.signature = Header.magic
    · by_cases hc : h.streamCount = 0
      · simp only [hm, hc, ne_eq, not_true_eq_false, if_false, if_true]
        exact ⟨_, rfl, rfl⟩
      · simp only [hm, hc, ne_eq, not_true_eq_false, if_false]
        rfl
    · simp only [hm, ne_eq, not_false_eq_true, if_true]
      exact ⟨_, rfl, rfl⟩
  · rw [Record.readAt?_of_not_fits hf, bind_error (record_of_not_fits hf)]
    exact ⟨_, rfl, rfl⟩

theorem directory_foldl (es : List DirectoryEntry) (c : Collected) :
    (es.foldl (fun c e => c.addEntry e) c).directory.toList = c.directory.toList ++ es ∧
      (es.foldl (fun c e => c.addEntry e) c).contents = c.contents := by
  induction es generalizing c with
  | nil => simp
  | cons e es ih =>
    obtain ⟨hd, hc⟩ := ih (c.addEntry e)
    refine ⟨?_, hc⟩
    rw [List.foldl_cons, hd, Collected.addEntry, Array.toList_push, List.append_assoc,
      List.singleton_append]

theorem directory_run {d : Image} (h : Header) (s : ParseState) (p : Nat)
    (hd : s.cursor.image = d) (hs : s.collected = {}) :
    match h.decodeDirectory d with
    | .error r => ∃ t, directory h (s.moved p) = .error (.rejected r) t ∧ t.notices = s.notices
    | .ok es => ∃ (t : ParseState) (q : Nat), directory h (s.moved p) = .ok es (t.moved q) ∧
        t.cursor = s.cursor ∧ t.notices = s.notices ∧
        t.collected.contents = Contents.ofStreams [] := by
  subst hd
  have hr := h.directoryRva.toNat_lt
  have hn := h.streamCount.toNat_lt
  have he := each_run (keeps_collect s.cursor.image Collected.addEntry) h.streamCount.toNat
    (p := h.directoryRva.toNat) rfl (by simp [Cursor.reach]; omega)
  rw [Header.decodeDirectory, Record.readAll, directory, bind_ok (seek_run (uint32_lt_reach _))]
  rcases hrun : Record.readRun (α := DirectoryEntry) s.cursor.image h.directoryRva.toNat
    h.streamCount.toNat with ⟨es, cut⟩
  rw [hrun] at he
  cases cut with
  | some short =>
    obtain ⟨t, ht, hnt⟩ := he
    exact ⟨t, bind_error ht, hnt⟩
  | none =>
    obtain ⟨q, hq⟩ := he
    obtain ⟨hd, hc⟩ := directory_foldl es s.collected
    refine ⟨s.collecting (es.foldl (fun c e => c.addEntry e) s.collected), q, ?_, rfl, rfl, ?_⟩
    · rw [bind_ok hq, bind_get, pure_run, ParseState.collected_moved,
        ParseState.collected_collecting, hd, hs]
      rfl
    · rw [ParseState.collected_collecting, hc, hs]
      rfl

end Parse

namespace Dump

/-- For every image and either source the parse gives what decoding in place gives. -/
theorem parse_eq (source : Source) (d : Image) :
    parse source d = ⟨(decode d).notices, (decode d).result.mapError .rejected⟩ := by
  rw [parse, decode, Parse.dump]
  generalize hs : ({ cursor := Cursor.start d source } : ParseState) = s
  have hmoved : s.moved 0 = s := by rw [← hs]; rfl
  have himage : s.cursor.image = d := by rw [← hs]; rfl
  have hcollected : s.collected = {} := by rw [← hs]
  have hnotices : s.notices.toList = [] := by rw [← hs]
  have hh := Parse.header_run s 0 himage
  rw [hmoved] at hh
  cases hx : Header.decode d with
  | error r =>
    rw [hx] at hh
    obtain ⟨t, ht, hn⟩ := hh
    simp only [bind_error ht, hn, hnotices]
    rfl
  | ok h =>
    rw [hx] at hh
    have hd := Parse.directory_run h s (Record.size Header) himage hcollected
    cases hy : h.decodeDirectory d with
    | error r =>
      rw [hy] at hd
      obtain ⟨t, ht, hn⟩ := hd
      simp only [bind_ok hh, bind_error ht, hn, hnotices, hy]
      rfl
    | ok es =>
      rw [hy] at hd
      obtain ⟨t, q, ht, hc, hn, hx⟩ := hd
      have ha := Parse.streams_agrees es t q
      rw [hc, himage] at ha
      simp only [bind_ok hh, bind_ok ht, hy, Decoding.map, Contents.decode]
      generalize hz : Parse.streams es (t.moved q) = z at ha
      generalize Contents.decodeStreams d es = x at ha
      cases ha with
      | taken q' hc' hn' hx' =>
        rw [hx, Contents.foldl_add_ofStreams, List.nil_append] at hx'
        simp only [bind_ok hz, Parse.bind_get, Parse.pure_run, hx', hn', hn, hnotices]
        rfl
      | rejected hn' =>
        simp only [bind_error hz, hn', hn, hnotices]
        rfl

end Dump

end CrashDump
