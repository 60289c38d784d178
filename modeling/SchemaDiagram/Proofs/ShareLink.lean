import SchemaDiagram.Proofs.Bytes.Base64
import SchemaDiagram.Proofs.Bytes.Utf8
import SchemaDiagram.Proofs.Text.Blank
import SchemaDiagram.ShareLink

/-!
# A link gives its text back

A link carries its text through three encodings, and each of them is undone when it is opened: the
escapes (`Percent.decode?_flatMap_escape`), base64 (`Base64.decode_encode`) and UTF-8
(`Utf8.decode_encode`). The parameter is found among others and in front of a fragment
(`ShareLink.value?_link`), so that the text comes back from a link that something was added to
(`ShareLink.decode_link`).

It also comes back from a link with the url-safe variant of base64 (`ShareLink.decode_urlSafe`). The
standard variant is tried first there, too, and takes some of these values, but only for what they
stand for.
-/

namespace SchemaDiagram

/-! ## Escapes -/

/-- A character of ASCII that begins no escape is read as its byte. -/
theorem Percent.decode?_cons {c : Char} (hascii : c.toNat < 0x80) (hpercent : c ≠ '%')
    (rest : List Char) :
    Percent.decode? (c :: rest) = (Percent.decode? rest).map (UInt8.ofNat c.toNat :: ·) := by
  rw [Percent.decode?, if_neg hpercent, Utf8.encodeChar_of_ascii hascii]
  · rfl
  · rintro a b rest h
    exact absurd h hpercent

/-- Symbols without escapes are read as their bytes. -/
theorem Percent.decode?_of_forall {symbols : List Char}
    (h : ∀ c ∈ symbols, c.toNat < 0x80 ∧ c ≠ '%') :
    Percent.decode? symbols = some (Base64.bytes symbols) := by
  induction symbols with
  | nil => rfl
  | cons c symbols ih =>
    obtain ⟨⟨hascii, hpercent⟩, hrest⟩ := List.forall_mem_cons.1 h
    rw [Percent.decode?_cons hascii hpercent, ih hrest]
    rfl

/-- A symbol as it stands in a link is read as its byte. -/
theorem Percent.decode?_escape {c : Char} (hascii : c.toNat < 0x80) (hpercent : c ≠ '%')
    (rest : List Char) :
    Percent.decode? (ShareLink.escape c ++ rest) =
      (Percent.decode? rest).map (UInt8.ofNat c.toNat :: ·) := by
  have hescape {a b : Char} {n : Nat} (hvalue : Percent.value? a b = some n) :
      Percent.decode? ('%' :: a :: b :: rest) =
        (Percent.decode? rest).map (UInt8.ofNat n :: ·) := by
    rw [Percent.decode?, hvalue]
    cases Percent.decode? rest <;> rfl
  unfold ShareLink.escape
  split_ifs with hplus hslash hequals
  · rw [hplus]
    exact hescape (n := 43) (by decide)
  · rw [hslash]
    exact hescape (n := 47) (by decide)
  · rw [hequals]
    exact hescape (n := 61) (by decide)
  · exact Percent.decode?_cons hascii hpercent rest

/-- The bytes of escaped symbols are those of the symbols. -/
theorem Percent.decode?_flatMap_escape {symbols : List Char}
    (h : ∀ c ∈ symbols, c.toNat < 0x80 ∧ c ≠ '%') :
    Percent.decode? (symbols.flatMap ShareLink.escape) = some (Base64.bytes symbols) := by
  induction symbols with
  | nil => rfl
  | cons c symbols ih =>
    obtain ⟨⟨hascii, hpercent⟩, hrest⟩ := List.forall_mem_cons.1 h
    rw [List.flatMap_cons, Percent.decode?_escape hascii hpercent, ih hrest]
    rfl

namespace ShareLink

/-! ## The value of the parameter -/

/-- An encoding consists of characters of ASCII that neither begin an escape nor end the parameter. -/
theorem forall_mem_encode {v : Base64.Variant}
    (hv : v ∈ [Base64.Variant.standard, Base64.Variant.urlSafe]) (l : List UInt8) :
    ∀ c ∈ Base64.encode v l, c.toNat < 0x80 ∧ c ≠ '%' ∧ c ≠ '&' ∧ c ≠ '#' := by
  have hsymbol : ∀ v ∈ [Base64.Variant.standard, Base64.Variant.urlSafe], ∀ n < 64,
      (v.symbol n).toNat < 0x80 ∧ v.symbol n ≠ '%' ∧ v.symbol n ≠ '&' ∧ v.symbol n ≠ '#' := by
    decide +kernel
  exact Base64.forall_mem_encode (hsymbol v hv) (by decide) l

/-- The bytes of a text are read from the value for it. -/
theorem decode?_encodeText (text : List Char) :
    Percent.decode? (encodeText text) =
      some (Base64.bytes (Base64.encode .standard (Utf8.encode text))) := by
  have hall := forall_mem_encode List.mem_cons_self (Utf8.encode text)
  exact Percent.decode?_flatMap_escape fun c hc => ⟨(hall c hc).1, (hall c hc).2.1⟩

/-- An escape neither ends the parameter nor begins a fragment. -/
theorem not_mem_escape {c : Char} (h : c ≠ '&' ∧ c ≠ '#') : '&' ∉ escape c ∧ '#' ∉ escape c := by
  unfold escape
  split_ifs
  · decide
  · decide
  · decide
  · exact ⟨fun hmem => h.1 (List.mem_singleton.1 hmem).symm,
      fun hmem => h.2 (List.mem_singleton.1 hmem).symm⟩

/-- The value for a text neither ends the parameter nor begins a fragment. -/
theorem not_mem_encodeText (text : List Char) : '&' ∉ encodeText text ∧ '#' ∉ encodeText text := by
  have hescape (c : Char) (hc : c ∈ Base64.encode .standard (Utf8.encode text)) :=
    not_mem_escape (forall_mem_encode List.mem_cons_self _ c hc).2.2
  unfold encodeText
  simp only [List.mem_flatMap, not_exists, not_and]
  exact ⟨fun c hc => (hescape c hc).1, fun c hc => (hescape c hc).2⟩

/-- What the standard variant of base64 reads is read. -/
theorem decodeBase64_of_standard {s bytes : List UInt8}
    (h : Base64.decode .standard s = .ok bytes) : decodeBase64 s = .ok bytes := by
  unfold decodeBase64
  rw [h]

/-- What the url-safe variant of base64 reads is read, whether the standard one reads it or not. -/
theorem decodeBase64_of_urlSafe {s bytes : List UInt8}
    (h : Base64.decode .urlSafe s = .ok bytes) : decodeBase64 s = .ok bytes := by
  cases hstandard : Base64.decode .standard s with
  | ok found =>
    rw [decodeBase64_of_standard hstandard,
      Base64.eq_of_decode Base64.agree_standard_urlSafe hstandard h]
  | error fault =>
    unfold decodeBase64
    rw [hstandard, h]

/-! ## The parameter among others -/

/-- The query begins behind the first question mark and ends in front of the fragment. -/
theorem query?_append {origin query fragment : List Char} (hquestion : '?' ∉ origin)
    (horigin : '#' ∉ origin) (hquery : '#' ∉ query)
    (hfragment : fragment = [] ∨ fragment.head? = some '#') :
    query? (origin ++ '?' :: query ++ fragment) = some query := by
  have hfront : ∀ c ∈ origin ++ '?' :: query, (c != '#') = true := by
    intro c hc
    rw [bne_iff_ne]
    rintro rfl
    simp [horigin, hquery] at hc
  have hrest : fragment.takeWhile (· != '#') = [] := by
    rcases hfragment with rfl | hhead
    · rfl
    · obtain ⟨rest, rfl⟩ := List.head?_eq_some_iff.1 hhead
      rfl
  have horigin' : ∀ c ∈ origin, (c != '?') = true := by
    intro c hc
    rw [bne_iff_ne]
    rintro rfl
    exact hquestion hc
  unfold query?
  rw [List.takeWhile_append_of_pos hfront, hrest, List.append_nil,
    List.dropWhile_append_of_pos horigin']
  rfl

/-- The parameter gives its value. -/
theorem valueOf?_parameter (value : List Char) :
    valueOf? (parameter ++ '=' :: value) = some value := rfl

/-- What has another name in front of the first equals sign, or no equals sign, gives no value. -/
theorem valueOf?_of_ne {pair : List Char}
    (h : '=' ∈ pair → pair.takeWhile (· != '=') ≠ parameter) : valueOf? pair = none := by
  unfold valueOf?
  split
  · next c value hdrop =>
    have hmem : '=' ∈ pair := by
      by_contra hnot
      have hnil : pair.dropWhile (· != '=') = [] := by
        rw [List.dropWhile_eq_nil_iff]
        intro c hc
        rw [bne_iff_ne]
        rintro rfl
        exact hnot hc
      rw [hnil] at hdrop
      cases hdrop
    exact if_neg (h hmem)
  · rfl

/-- The value of the parameter is found in a link, whatever comes around it. -/
theorem value?_link {origin fragment value : List Char} (before after : List (List Char))
    (hquestion : '?' ∉ origin) (horigin : '#' ∉ origin)
    (hbefore : ∀ pair ∈ before, '&' ∉ pair ∧ '#' ∉ pair ∧
      ('=' ∈ pair → pair.takeWhile (· != '=') ≠ parameter))
    (hvalue : '&' ∉ value ∧ '#' ∉ value) (hafter : ∀ pair ∈ after, '&' ∉ pair ∧ '#' ∉ pair)
    (hfragment : fragment = [] ∨ fragment.head? = some '#') :
    value? (origin ++ '?' :: ['&'].intercalate (before ++ (parameter ++ '=' :: value) :: after) ++
      fragment) = some value := by
  let pairs := before ++ (parameter ++ '=' :: value) :: after
  have hparameter : '&' ∉ parameter ∧ '#' ∉ parameter := by decide
  have hpairs : ∀ pair ∈ pairs, '&' ∉ pair ∧ '#' ∉ pair := by
    intro pair hpair
    rcases List.mem_append.1 hpair with hmem | hmem
    · exact ⟨(hbefore pair hmem).1, (hbefore pair hmem).2.1⟩
    · rcases List.mem_cons.1 hmem with rfl | hmem
      · simp [hparameter, hvalue]
      · exact hafter pair hmem
  have hquery : '#' ∉ ['&'].intercalate pairs := by
    refine Text.intercalate_induction (P := fun s => '#' ∉ s) List.not_mem_nil
      (fun pair hpair => (hpairs pair hpair).2) fun pair hpair s hs => ?_
    simp [(hpairs pair hpair).2, hs]
  have hsplit : (['&'].intercalate pairs).splitOn '&' = pairs :=
    List.splitOn_intercalate '&' (fun pair hpair => (hpairs pair hpair).1) (by simp [pairs])
  have hnone : before.findSome? valueOf? = none :=
    List.findSome?_eq_none_iff.2 fun pair hpair => valueOf?_of_ne (hbefore pair hpair).2.2
  unfold value?
  rw [query?_append hquestion horigin hquery hfragment]
  show (List.splitOn '&' (['&'].intercalate pairs)).findSome? valueOf? = _
  rw [hsplit, List.findSome?_append, hnone, List.findSome?_cons, valueOf?_parameter]
  rfl

/-! ## Links -/

/-- A link is opened to the text whose bytes its parameter stands for. -/
theorem decode_of_bytes {url : String} {value text : List Char} {raw : List UInt8}
    (hvalue : value? url.toList = some value) (hraw : Percent.decode? value = some raw)
    (hbytes : decodeBase64 raw = .ok (Utf8.encode text)) : decode url = .ok (String.ofList text) := by
  unfold decode
  simp only [hvalue, hraw, hbytes, bind, Except.bind, Utf8.decode_encode]

/-- A link is opened to the text that its parameter has the value for. -/
theorem decode_of_value? {url : String} {text : List Char}
    (h : value? url.toList = some (encodeText text)) : decode url = .ok (String.ofList text) :=
  decode_of_bytes h (decode?_encodeText text) (decodeBase64_of_standard
    (Base64.decode_encode Base64.readable_standard (Utf8.encode text)))

/-- What can be added to the query of a link in front of its parameter. -/
structure ComesBefore (pair : String) : Prop where
  /-- It does not end within. -/
  ampersand : '&' ∉ pair.toList
  /-- No fragment begins in it. -/
  hash : '#' ∉ pair.toList
  /-- It gives no value to the parameter. -/
  name : '=' ∈ pair.toList → pair.toList.takeWhile (· != '=') ≠ parameter

/-- The text of a link comes back, also when parameters and a fragment were added to the link. -/
theorem decode_link (text origin : String) (hquestion : '?' ∉ origin.toList)
    (hhash : '#' ∉ origin.toList) :
    decode (encode origin text) = .ok text ∧
      ∀ (before after : List String) (fragment : String), (∀ pair ∈ before, ComesBefore pair) →
        (∀ pair ∈ after, '&' ∉ pair.toList ∧ '#' ∉ pair.toList) →
        (fragment = "" ∨ fragment.toList.head? = some '#') →
        decode (origin ++ "?" ++ "&".intercalate (before ++
          ("diagram=" ++ String.ofList (encodeText text.toList)) :: after) ++ fragment) =
            .ok text := by
  have hopen {url : String} (h : value? url.toList = some (encodeText text.toList)) :
      decode url = .ok text := by
    rw [decode_of_value? h, String.ofList_toList]
  have hvalue := not_mem_encodeText text.toList
  constructor
  · -- The link alone is one to which nothing was added.
    have hlink := value?_link [] [] hquestion hhash (fun _ h => nomatch h) hvalue
      (fun _ h => nomatch h) (.inl rfl)
    refine hopen ?_
    unfold encode
    rw [String.toList_ofList, ← hlink]
    simp
  · intro before after fragment hbefore hafter hfragment
    have hbefore' : ∀ pair ∈ before.map String.toList, '&' ∉ pair ∧ '#' ∉ pair ∧
        ('=' ∈ pair → pair.takeWhile (· != '=') ≠ parameter) := by
      intro _ h
      obtain ⟨pair, hpair, rfl⟩ := List.mem_map.1 h
      exact ⟨(hbefore pair hpair).ampersand, (hbefore pair hpair).hash, (hbefore pair hpair).name⟩
    have hafter' : ∀ pair ∈ after.map String.toList, '&' ∉ pair ∧ '#' ∉ pair := by
      intro _ h
      obtain ⟨pair, hpair, rfl⟩ := List.mem_map.1 h
      exact hafter pair hpair
    have hfragment' : fragment.toList = [] ∨ fragment.toList.head? = some '#' :=
      hfragment.imp_left String.toList_eq_nil_iff.2
    have hpair : ("diagram=" ++ String.ofList (encodeText text.toList)).toList =
        parameter ++ '=' :: encodeText text.toList :=
      String.toList_append.trans (congrArg _ String.toList_ofList)
    refine hopen ?_
    rw [← value?_link _ _ hquestion hhash hbefore' hvalue hafter' hfragment', String.toList_append,
      String.toList_append, String.toList_append, String.toList_intercalate, List.map_append,
      List.map_cons, hpair, List.append_assoc origin.toList]
    rfl

/-- The text of a link comes back that has the name of the parameter without a value in front of it,
and again with another value behind it. -/
theorem decode_link_addedTwice :
    decode (encode "https://example.com/app" "é?") = .ok "é?" ∧
      decode ("https://example.com/app" ++ "?" ++ "&".intercalate (["theme=dark", "diagram", "="] ++
        ("diagram=" ++ String.ofList (encodeText "é?".toList)) :: ["diagram=QQ%3D%3D", "?"]) ++
          "#?diagram=") = .ok "é?" ∧
      encode "https://example.com/app" "é?" = "https://example.com/app?diagram=w6k%2F" := by
  obtain ⟨hlink, hadded⟩ := decode_link "é?" "https://example.com/app" (by decide) (by decide)
  refine ⟨hlink, hadded _ _ _ (fun pair hpair => ?_) (by decide) (.inr rfl), by decide +kernel⟩
  simp only [List.mem_cons, List.not_mem_nil, or_false] at hpair
  rcases hpair with rfl | rfl | rfl
  · exact ⟨by decide, by decide, fun _ => by decide⟩
  · exact ⟨by decide, by decide, fun h => absurd h (by decide)⟩
  · exact ⟨by decide, by decide, fun _ => by decide⟩

/-! ## Links with the url-safe variant -/

/-- The value of the parameter for a text in the url-safe variant, which needs no escapes. -/
def encodeUrlSafe (text : List Char) : List Char :=
  Base64.encode .urlSafe (Utf8.encode text)

/-- The text comes back from a link with the url-safe variant. The standard one, which is tried
first, may take the value or refuse it; what it takes are the bytes of the text. -/
theorem decode_urlSafe (text origin : String) (hquestion : '?' ∉ origin.toList)
    (hhash : '#' ∉ origin.toList) :
    decode (origin ++ "?diagram=" ++ String.ofList (encodeUrlSafe text.toList)) = .ok text ∧
      (∀ bytes, Base64.decode .standard (Base64.bytes (encodeUrlSafe text.toList)) = .ok bytes →
        bytes = Utf8.encode text.toList) ∧
      Base64.decode .urlSafe (Base64.bytes (encodeUrlSafe text.toList)) =
        .ok (Utf8.encode text.toList) := by
  have hall := forall_mem_encode (List.mem_cons_of_mem _ List.mem_cons_self)
    (Utf8.encode text.toList)
  have hraw : Percent.decode? (encodeUrlSafe text.toList) =
      some (Base64.bytes (encodeUrlSafe text.toList)) :=
    Percent.decode?_of_forall fun c hc => ⟨(hall c hc).1, (hall c hc).2.1⟩
  have hurlSafe : Base64.decode .urlSafe (Base64.bytes (encodeUrlSafe text.toList)) =
      .ok (Utf8.encode text.toList) :=
    Base64.decode_encode Base64.readable_urlSafe (Utf8.encode text.toList)
  have hvalue : value? (origin ++ "?diagram=" ++ String.ofList (encodeUrlSafe text.toList)).toList =
      some (encodeUrlSafe text.toList) := by
    have hmarks : '&' ∉ encodeUrlSafe text.toList ∧ '#' ∉ encodeUrlSafe text.toList :=
      ⟨fun h => (hall _ h).2.2.1 rfl, fun h => (hall _ h).2.2.2 rfl⟩
    have hlink := value?_link [] [] hquestion hhash (fun _ h => nomatch h) hmarks
      (fun _ h => nomatch h) (.inl rfl)
    have hofList : (String.ofList (encodeUrlSafe text.toList)).toList = encodeUrlSafe text.toList :=
      String.toList_ofList
    rw [← hlink, String.toList_append, String.toList_append, hofList, List.append_assoc,
      List.append_nil, List.nil_append, List.intercalate_singleton]
    rfl
  refine ⟨?_, fun bytes hbytes => ?_, hurlSafe⟩
  · rw [decode_of_bytes hvalue hraw (decodeBase64_of_urlSafe hurlSafe), String.ofList_toList]
  · exact Base64.eq_of_decode Base64.agree_standard_urlSafe hbytes hurlSafe

/-- Of two texts in the url-safe variant the standard one takes the first and refuses the second,
which has a symbol of its own and lacks padding. Both come back. -/
theorem decode_urlSafe_takenAndRefused :
    ('?' ∉ "https://example.com/".toList ∧ '#' ∉ "https://example.com/".toList) ∧
      (decode ("https://example.com/" ++ "?diagram=" ++
          String.ofList (encodeUrlSafe "日本語".toList)) = .ok "日本語" ∧
        encodeUrlSafe "日本語".toList = "5pel5pys6Kqe".toList ∧
        Base64.decode .standard (Base64.bytes (encodeUrlSafe "日本語".toList)) =
          .ok (Utf8.encode "日本語".toList)) ∧
      decode ("https://example.com/" ++ "?diagram=" ++
          String.ofList (encodeUrlSafe "é?>".toList)) = .ok "é?>" ∧
        encodeUrlSafe "é?>".toList = "w6k_Pg".toList ∧
        Base64.decode .standard (Base64.bytes (encodeUrlSafe "é?>".toList)) =
          .error (.symbol 3 '_'.toNat) := by
  have horigin : '?' ∉ "https://example.com/".toList ∧ '#' ∉ "https://example.com/".toList := by
    decide
  obtain ⟨htaken, -⟩ := decode_urlSafe "日本語" "https://example.com/" horigin.1 horigin.2
  obtain ⟨hrefused, -⟩ := decode_urlSafe "é?>" "https://example.com/" horigin.1 horigin.2
  exact ⟨horigin, ⟨htaken, rfl, rfl⟩, hrefused, rfl, rfl⟩

end ShareLink

end SchemaDiagram
