import TelemetrySpool.Receiver.Http

/-!
# What a posted request carries

Whether a request is taken depends on its content type, on how its body is encoded, and on how much
the body comes to. Here this is told from the headers and the body in terms of its own, and compared
with what buffering and decoding find: which requests carry a content, and which are too long or not
supported.
-/

namespace TelemetrySpool

namespace HttpRequest

/-- The content type of a request starts with that of an encoding. -/
def Names (request : HttpRequest) (encoding : Encoding) : Prop :=
  encoding.contentType.toList <+: request.contentType.toList

/-- The body is as it is. -/
def IsPlain (request : HttpRequest) : Prop :=
  request.header? "content-encoding" = none ∨
    request.header? "content-encoding" = some (Bytes.ofText "identity")

/-- The body is compressed. -/
def IsZipped (request : HttpRequest) : Prop :=
  request.header? "content-encoding" = some (Bytes.ofText "gzip")

/-- The octets that a request brings: its body, or what that expands to. -/
def Brings (request : HttpRequest) (body : Bytes) : Prop :=
  request.IsPlain ∧ body = request.body ∨
    request.IsZipped ∧ Compression.Gzip.expand request.body = .done body

/-- A request brings more octets than the limit, or expands to more before a fault is found. -/
def TooLong (request : HttpRequest) (limit : Nat) : Prop :=
  (∃ body, request.Brings body ∧ limit < body.length) ∨
    request.IsZipped ∧ ∃ count, Compression.Gzip.expand request.body = .broken count ∧ limit < count

/-- A request says that its body is encoded in another way, or its content type is another one. -/
def Unsupported (request : HttpRequest) (limit : Nat) : Prop :=
  ¬ (request.IsPlain ∨ request.IsZipped) ∨
    (∃ body, request.Brings body ∧ body.length ≤ limit) ∧ ∀ encoding, ¬ request.Names encoding

/-- The content type is supported, and the body is within the limit and that of a request. -/
def Carries (request : HttpRequest) (limit : Nat) (signal : Signal) (content : Request) : Prop :=
  ∃ encoding body, request.Names encoding ∧ request.Brings body ∧ body.length ≤ limit ∧
    Request.decode signal encoding body = .ok content

variable {request : HttpRequest}

/-- No content type starts with those of two encodings. -/
theorem encoding_eq_ok_iff {encoding : Encoding} :
    request.encoding = .ok encoding ↔ request.Names encoding := by
  have hone : ¬ (request.Names .binary ∧ request.Names .json) := by
    rintro ⟨hbinary, hjson⟩
    have hprefix := List.prefix_of_prefix_length_le hjson hbinary (by decide)
    exact absurd hprefix (by decide)
  have hbinary : Encoding.binary.contentType.toList.isPrefixOf request.contentType.toList ↔
      request.Names .binary := List.isPrefixOf_iff_prefix
  have hjson : Encoding.json.contentType.toList.isPrefixOf request.contentType.toList ↔
      request.Names .json := List.isPrefixOf_iff_prefix
  unfold HttpRequest.encoding
  dsimp only
  by_cases hb : request.Names .binary
  · rw [if_pos (hbinary.2 hb)]
    cases encoding with
    | binary => exact iff_of_true rfl hb
    | json => exact iff_of_false (by simp) fun hj => hone ⟨hb, hj⟩
  · rw [if_neg (mt hbinary.1 hb)]
    split
    · next hj =>
      cases encoding with
      | binary => exact iff_of_false (by simp) hb
      | json => exact iff_of_true rfl (hjson.1 hj)
    · next hj =>
      cases encoding with
      | binary => exact iff_of_false (by simp) hb
      | json => exact iff_of_false (by simp) (mt hjson.2 hj)

/-- A body is taken as it is, expanded, or not at all. -/
theorem compressed?_eq_some_iff {compressed : Bool} :
    request.compressed? = some compressed ↔
      if compressed then request.IsZipped else request.IsPlain := by
  have hgzip : Bytes.ofText "gzip" ≠ Bytes.ofText "identity" := by decide
  rw [compressed?, IsZipped, IsPlain]
  cases request.header? "content-encoding" with
  | none => cases compressed <;> simp
  | some value =>
    by_cases hz : value = Bytes.ofText "gzip"
    · cases compressed <;> simp [hz, hgzip]
    · by_cases hi : value = Bytes.ofText "identity"
      · cases compressed <;> simp [hi, Ne.symm hgzip]
      · cases compressed <;> simp [hz, hi]

/-- A body is not taken at all if it is neither plain nor compressed. -/
theorem compressed?_eq_none_iff :
    request.compressed? = none ↔ ¬ (request.IsPlain ∨ request.IsZipped) := by
  rw [Option.eq_none_iff_forall_ne_some]
  simp only [ne_eq, compressed?_eq_some_iff, Bool.forall_bool, if_true, Bool.false_eq_true,
    if_false, not_or]

/-- What is buffered is what the request brings, if that is within the limit. -/
theorem buffered_eq_ok_iff {limit : Nat} {body : Bytes} :
    (∃ compressed, request.compressed? = some compressed ∧
      request.buffered compressed limit = .ok body) ↔
      request.Brings body ∧ body.length ≤ limit := by
  have hplain : request.buffered false limit = .ok body ↔
      body = request.body ∧ body.length ≤ limit := by
    simp only [buffered, Bool.false_eq_true, if_false]
    split
    · next hlong => exact iff_of_false (by simp) fun h => absurd h.2 (by rw [h.1]; omega)
    · next hshort =>
      rw [Except.ok.injEq]
      exact ⟨fun h => ⟨h.symm, by rw [← h]; omega⟩, fun h => h.1.symm⟩
  have hzipped : request.buffered true limit = .ok body ↔
      Compression.Gzip.expand request.body = .done body ∧ body.length ≤ limit := by
    simp only [buffered, if_true]
    cases Compression.Gzip.expand request.body with
    | broken count => simp
    | done bytes =>
      dsimp only
      split
      · next hlong =>
        refine iff_of_false (by simp) fun h => ?_
        obtain rfl := Compression.Gzip.Expansion.done.inj h.1
        omega
      · next hshort =>
        rw [Except.ok.injEq, Compression.Gzip.Expansion.done.injEq]
        exact ⟨fun h => ⟨h, by rw [← h]; omega⟩, And.left⟩
  simp only [Bool.exists_bool, compressed?_eq_some_iff, hplain, hzipped, if_true,
    Bool.false_eq_true, if_false, Brings]
  rw [or_and_right, and_assoc, and_assoc]

/-- What a request carries is what is made of it after its body has been buffered. -/
theorem carries_iff {limit : Nat} {signal : Signal} {content : Request} :
    request.Carries limit signal content ↔
      ∃ compressed encoding body, request.compressed? = some compressed ∧
        request.encoding = .ok encoding ∧ request.buffered compressed limit = .ok body ∧
        Request.decode signal encoding body = .ok content := by
  simp only [Carries, ← encoding_eq_ok_iff]
  constructor
  · rintro ⟨encoding, body, he, hbrings, hwithin, hd⟩
    obtain ⟨compressed, hc, hb⟩ := buffered_eq_ok_iff.2 ⟨hbrings, hwithin⟩
    exact ⟨compressed, encoding, body, hc, he, hb, hd⟩
  · rintro ⟨compressed, encoding, body, hc, he, hb, hd⟩
    obtain ⟨hbrings, hwithin⟩ := buffered_eq_ok_iff.1 ⟨compressed, hc, hb⟩
    exact ⟨encoding, body, he, hbrings, hwithin, hd⟩

/-- A body is refused as too long exactly if it is. -/
theorem buffered_eq_tooLong_iff {limit : Nat} :
    (∃ compressed, request.compressed? = some compressed ∧
      request.buffered compressed limit = .error .tooLong) ↔ request.TooLong limit := by
  have hplain : request.buffered false limit = .error .tooLong ↔ limit < request.body.length := by
    simp only [buffered, Bool.false_eq_true, if_false]
    split <;> simp [*]
  have hzipped : request.buffered true limit = .error .tooLong ↔
      (∃ body, Compression.Gzip.expand request.body = .done body ∧ limit < body.length) ∨
        ∃ count, Compression.Gzip.expand request.body = .broken count ∧ limit < count := by
    simp only [buffered, if_true]
    cases Compression.Gzip.expand request.body with
    | broken count =>
      dsimp only
      split <;> simp [*]
    | done bytes =>
      dsimp only
      split <;> simp [*]
  simp only [Bool.exists_bool, compressed?_eq_some_iff, hplain, hzipped, if_true,
    Bool.false_eq_true, if_false, TooLong, Brings]
  constructor
  · rintro (⟨hp, hlong⟩ | ⟨hz, ⟨body, hd, hlong⟩ | hbroken⟩)
    · exact .inl ⟨_, .inl ⟨hp, rfl⟩, hlong⟩
    · exact .inl ⟨body, .inr ⟨hz, hd⟩, hlong⟩
    · exact .inr ⟨hz, hbroken⟩
  · rintro (⟨body, ⟨hp, rfl⟩ | ⟨hz, hd⟩, hlong⟩ | ⟨hz, hbroken⟩)
    · exact .inl ⟨hp, hlong⟩
    · exact .inr ⟨hz, .inl ⟨body, hd, hlong⟩⟩
    · exact .inr ⟨hz, .inr hbroken⟩

/-- A request that carries something is not too long. -/
theorem Carries.not_tooLong {limit : Nat} {signal : Signal} {content : Request}
    (h : request.Carries limit signal content) : ¬ request.TooLong limit := by
  obtain ⟨compressed, encoding, body, hc, -, hb, -⟩ := carries_iff.1 h
  rw [← buffered_eq_tooLong_iff]
  rintro ⟨compressed', hc', hlong⟩
  obtain rfl := Option.some.inj (hc.symm.trans hc')
  cases hb.symm.trans hlong

/-- A request that carries something is supported. -/
theorem Carries.not_unsupported {limit : Nat} {signal : Signal} {content : Request}
    (h : request.Carries limit signal content) : ¬ request.Unsupported limit := by
  obtain ⟨encoding, body, hnames, hbrings, -, -⟩ := h
  rintro (hunknown | ⟨-, hnone⟩)
  · exact hunknown (hbrings.imp And.left And.left)
  · exact hnone encoding hnames

/-- A request whose body is encoded in a way that is not known brings nothing that could be too
long. -/
theorem not_tooLong_of_compressed? {limit : Nat} (h : request.compressed? = none) :
    ¬ request.TooLong limit := by
  rw [← buffered_eq_tooLong_iff]
  rintro ⟨compressed, hc, -⟩
  cases h.symm.trans hc

end HttpRequest

/-- What is decoded for a signal is of that signal. -/
theorem Request.signal_of_decode {signal : Signal} {encoding : Encoding} {body : Bytes}
    {content : Request} (h : decode signal encoding body = .ok content) :
    content.signal = signal := by
  have hjson : ∀ json, ofJson? signal json = some content → content.signal = signal := by
    intro json hj
    cases signal with
    | unspecified => cases hj
    | _ =>
      obtain ⟨_, -, rfl⟩ := Option.map_eq_some_iff.1 hj
      rfl
  have hbinary : ∀ bytes, ofBinary? signal bytes = some content → content.signal = signal := by
    intro bytes hb
    cases signal with
    | unspecified => cases hb
    | _ =>
      obtain ⟨_, -, rfl⟩ := Option.map_eq_some_iff.1 hb
      rfl
  cases encoding with
  | json =>
    unfold decode at h
    dsimp only at h
    split at h
    · next hj =>
      obtain rfl := Except.ok.inj h
      obtain ⟨json, -, hj⟩ := Option.bind_eq_some_iff.1 hj
      exact hjson json hj
    · cases h
  | binary =>
    unfold decode at h
    dsimp only at h
    split at h
    · next hb =>
      obtain rfl := Except.ok.inj h
      exact hbinary body hb
    · cases h

namespace Receiver

/-- What reading a posted request has to do with what it carries. -/
theorem readPosted_eq_ok_iff {request : HttpRequest} {compressed : Bool} {limit : Nat}
    {signal : Signal} {encoding : Encoding} {content : Request} :
    readPosted request compressed limit signal = .ok (encoding, content) ↔
      ∃ body, request.buffered compressed limit = .ok body ∧ request.encoding = .ok encoding ∧
        Request.decode signal encoding body = .ok content := by
  unfold readPosted
  cases request.buffered compressed limit with
  | error _ => simp [bind, Except.bind]
  | ok body =>
    cases request.encoding with
    | error _ => simp [bind, Except.bind]
    | ok encoding' =>
      cases hd : Request.decode signal encoding' body with
      | error _ =>
        simp only [bind, Except.bind, hd, reduceCtorEq, Except.ok.injEq, false_iff, not_exists,
          not_and]
        rintro _ rfl rfl
        rw [hd]
        exact nofun
      | ok content' =>
        simp only [bind, Except.bind, hd, Except.ok.injEq, Prod.mk.injEq, exists_eq_left']
        constructor
        · rintro ⟨rfl, rfl⟩
          exact ⟨rfl, hd⟩
        · rintro ⟨rfl, hd'⟩
          rw [hd] at hd'
          exact ⟨rfl, Except.ok.inj hd'⟩

/-- A body that cannot be taken whole is too long or does not expand. -/
theorem refusal_of_buffered {request : HttpRequest} {compressed : Bool} {limit : Nat}
    {refusal : HttpRefusal} (h : request.buffered compressed limit = .error refusal) :
    refusal = .tooLong ∨ refusal = .unexpandable := by
  unfold HttpRequest.buffered at h
  dsimp only at h
  split at h
  · split at h
    · split at h
      · exact .inl (Except.error.inj h).symm
      · cases h
    · obtain rfl := Except.error.inj h
      split
      · exact .inl rfl
      · exact .inr rfl
  · split at h
    · exact .inl (Except.error.inj h).symm
    · cases h

/-- A content type is refused as unsupported only. -/
theorem refusal_of_encoding {request : HttpRequest} {refusal : HttpRefusal}
    (h : request.encoding = .error refusal) : ∃ text, refusal = .unsupportedContentType text := by
  unfold HttpRequest.encoding at h
  dsimp only at h
  split at h
  · cases h
  · split at h
    · cases h
    · exact ⟨_, (Except.error.inj h).symm⟩

/-- What is wrong with a request itself is told by three statuses, two of which say what it is. -/
theorem refusal_status {request : HttpRequest} {compressed : Bool} {limit : Nat}
    {signal : Signal} {refusal : HttpRefusal} (hc : request.compressed? = some compressed)
    (h : readPosted request compressed limit signal = .error refusal) :
    refusal.status ∈ [400, 413, 415] ∧ (refusal.status = 413 ↔ request.TooLong limit) ∧
      (refusal.status = 415 ↔ request.Unsupported limit) := by
  have htoo : request.TooLong limit ↔ request.buffered compressed limit = .error .tooLong := by
    rw [← HttpRequest.buffered_eq_tooLong_iff]
    exact ⟨fun ⟨_, hc', hb⟩ => Option.some.inj (hc.symm.trans hc') ▸ hb, fun hb => ⟨_, hc, hb⟩⟩
  have hun : request.Unsupported limit ↔ (∃ body, request.buffered compressed limit = .ok body) ∧
      ∀ encoding, request.encoding ≠ .ok encoding := by
    have hknown : request.IsPlain ∨ request.IsZipped := by
      have hone := HttpRequest.compressed?_eq_some_iff.1 hc
      cases compressed with
      | true => exact .inr (by simpa using hone)
      | false => exact .inl (by simpa using hone)
    have hbody : (∃ body, request.Brings body ∧ body.length ≤ limit) ↔
        ∃ body, request.buffered compressed limit = .ok body := by
      refine exists_congr fun body => HttpRequest.buffered_eq_ok_iff.symm.trans ?_
      exact ⟨fun ⟨_, hc', hb⟩ => Option.some.inj (hc.symm.trans hc') ▸ hb, fun hb => ⟨_, hc, hb⟩⟩
    rw [HttpRequest.Unsupported, hbody, or_iff_right (not_not_intro hknown)]
    simp only [HttpRequest.encoding_eq_ok_iff, ne_eq]
  rw [htoo, hun]
  unfold readPosted at h
  cases hb : request.buffered compressed limit with
  | error _ =>
    rw [hb] at h
    obtain rfl := Except.error.inj h
    rcases refusal_of_buffered hb with rfl | rfl <;> simp [HttpRefusal.status]
  | ok body =>
    rw [hb] at h
    cases he : request.encoding with
    | error _ =>
      rw [he] at h
      obtain rfl := Except.error.inj h
      obtain ⟨text, rfl⟩ := refusal_of_encoding he
      simp [HttpRefusal.status]
    | ok encoding =>
      rw [he] at h
      simp only [bind, Except.bind] at h
      split at h
      · cases h
      · obtain rfl := Except.error.inj h
        simp [HttpRefusal.status]

/-- A request carries one content at most. -/
theorem carries_unique {request : HttpRequest} {limit : Nat} {signal : Signal}
    {content content' : Request} (h : request.Carries limit signal content)
    (h' : request.Carries limit signal content') : content = content' := by
  obtain ⟨compressed, encoding, body, hc, he, hb, hd⟩ := HttpRequest.carries_iff.1 h
  obtain ⟨compressed', encoding', body', hc', he', hb', hd'⟩ := HttpRequest.carries_iff.1 h'
  obtain rfl := Option.some.inj (hc.symm.trans hc')
  obtain rfl := Except.ok.inj (he.symm.trans he')
  obtain rfl := Except.ok.inj (hb.symm.trans hb')
  exact Except.ok.inj (hd.symm.trans hd')

/-- What holds of a content that is carried holds of the one content. -/
theorem exists_carries_iff {request : HttpRequest} {limit : Nat} {signal : Signal}
    {content : Request} (h : request.Carries limit signal content) (P : Request → Prop) :
    (∃ other, request.Carries limit signal other ∧ P other) ↔ P content := by
  constructor
  · rintro ⟨other, ho, hP⟩
    rw [carries_unique h ho]
    exact hP
  · exact fun hP => ⟨content, h, hP⟩

end Receiver

end TelemetrySpool
