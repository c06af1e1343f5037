import Mathlib.Data.List.Basic

/-!
# The content-type cleaner

`ContentTypeCleanerMiddleware` logs each HTTP request and rewrites a
`content-type` whose media type is `application/sdp` (any parameters after a
`;` and surrounding blanks dropped) to exactly `application/sdp`, so that the
SDP handlers accept it. The body is read for the log and put back.

## Implementation notes

Header values are their bytes. `HeaderValue::to_str` accepts tabs and
printable ASCII only, so `trim` meets only ASCII there and is written on bytes.
-/

namespace MediaServer.Http.ContentType

/-- `HeaderValue`, as its bytes. -/
abbrev HeaderValue := List UInt8

/-- `is_visible_ascii` of the http crate. -/
def isVisibleAscii (b : UInt8) : Bool := b == 9 || (32 ≤ b && b < 127)

/-- `HeaderValue::to_str`, as the bytes of the text. -/
def toStr (value : HeaderValue) : Option (List UInt8) :=
  if value.all isVisibleAscii then some value else none

/-- `char::is_whitespace` on an ASCII byte. -/
def isAsciiWhitespace (b : UInt8) : Bool := b == 32 || (9 ≤ b && b ≤ 13)

/-- `str::trim` on ASCII bytes. -/
def trim (bytes : List UInt8) : List UInt8 :=
  ((bytes.dropWhile isAsciiWhitespace).reverse.dropWhile isAsciiWhitespace).reverse

/-- The bytes of `"application/sdp"`. -/
def applicationSdp : HeaderValue :=
  [97, 112, 112, 108, 105, 99, 97, 116, 105, 111, 110, 47, 115, 100, 112]

/-- `content_type.to_str().unwrap_or("").split(';').next().unwrap_or("").trim()`. -/
def cleanType (value : HeaderValue) : List UInt8 :=
  trim (((toStr value).getD []).takeWhile (· != 59))

/-- `HeaderMap`: lowercase names with their values, in order. -/
abbrev HeaderMap := List (String × HeaderValue)

namespace HeaderMap

/-- `HeaderMap::get`: the first value of the name. -/
def get (headers : HeaderMap) (name : String) : Option HeaderValue :=
  (headers.find? (·.1 = name)).map (·.2)

/-- Sets the first entry of `name` to `value` and drops its later ones. -/
def setFirst (name : String) (value : HeaderValue) : HeaderMap → HeaderMap
  | [] => []
  | (n, v) :: rest =>
      if n = name then (n, value) :: rest.filter (·.1 ≠ name) else (n, v) :: setFirst name value rest

/-- `HeaderMap::insert`: the value replaces every value of the name, at the
place of its first; a new name goes last. -/
def insert (headers : HeaderMap) (name : String) (value : HeaderValue) : HeaderMap :=
  if headers.any (·.1 = name) then setFirst name value headers else headers ++ [(name, value)]

variable (name : String) (value : HeaderValue)

@[simp] theorem get_nil (name' : String) : get [] name' = none := rfl

theorem get_cons (n : String) (v : HeaderValue) (rest : HeaderMap) (name' : String) :
    get ((n, v) :: rest) name' = if n = name' then some v else get rest name' := by
  by_cases h : n = name' <;> simp [get, List.find?_cons, h]

theorem get_filter_ne (rest : HeaderMap) (name' : String) :
    get (rest.filter (·.1 ≠ name)) name' = if name' = name then none else get rest name' := by
  induction rest with
  | nil => split <;> rfl
  | cons e rest ih =>
      obtain ⟨n, v⟩ := e
      rw [List.filter_cons]
      by_cases hn : n = name
      · subst hn
        rw [if_neg (by simp), ih, get_cons]
        by_cases h' : name' = n
        · simp [h']
        · simp [h', Ne.symm h']
      · rw [if_pos (by simpa using hn), get_cons, get_cons, ih]
        by_cases h' : name' = name
        · subst h'; simp [hn]
        · simp [h']

theorem get_setFirst (headers : HeaderMap) (name' : String) :
    (setFirst name value headers).get name' =
      if name' = name ∧ headers.any (·.1 = name) then some value else headers.get name' := by
  induction headers with
  | nil => simp [setFirst]
  | cons e rest ih =>
      obtain ⟨n, v⟩ := e
      by_cases hn : n = name
      · subst hn
        rw [setFirst, if_pos rfl, get_cons, get_filter_ne, get_cons]
        by_cases h' : name' = n
        · simp [h']
        · simp [h', Ne.symm h']
      · rw [setFirst, if_neg hn, get_cons, ih, get_cons, List.any_cons, decide_eq_false hn,
          Bool.false_or]
        by_cases h' : n = name'
        · subst h'; simp [hn]
        · simp [h']

theorem get_append (l₁ l₂ : HeaderMap) (name' : String) :
    get (l₁ ++ l₂) name' = (get l₁ name').or (get l₂ name') := by
  induction l₁ with
  | nil => rfl
  | cons e rest ih =>
      obtain ⟨n, v⟩ := e
      simp only [List.cons_append, get_cons, ih]
      split <;> rfl

theorem get_eq_none_of_absent (headers : HeaderMap) (h : headers.any (·.1 = name) = false) :
    headers.get name = none := by
  induction headers with
  | nil => rfl
  | cons e rest ih =>
      obtain ⟨n, v⟩ := e
      simp only [List.any_cons, Bool.or_eq_false_iff, decide_eq_false_iff_not] at h
      rw [get_cons, if_neg h.1, ih h.2]

@[simp] theorem get_insert (headers : HeaderMap) (name' : String) :
    (headers.insert name value).get name' = if name' = name then some value else headers.get name' := by
  unfold insert
  split
  · rw [get_setFirst]; simp_all
  · rename_i h
    rw [get_append, get_cons, get_nil]
    by_cases h' : name' = name
    · subst h'
      rw [get_eq_none_of_absent _ _ (Bool.eq_false_iff.mpr h)]
      simp
    · simp only [h', if_false, Ne.symm h', Option.or_none]

theorem setFirst_setFirst (headers : HeaderMap) :
    setFirst name value (setFirst name value headers) = setFirst name value headers := by
  induction headers with
  | nil => rfl
  | cons e rest ih =>
      obtain ⟨n, v⟩ := e
      by_cases hn : n = name
      · simp [setFirst, hn, List.filter_filter]
      · simp [setFirst, hn, ih]

theorem setFirst_append_of_absent (headers : HeaderMap) (h : headers.any (·.1 = name) = false) :
    setFirst name value (headers ++ [(name, value)]) = headers ++ [(name, value)] := by
  induction headers with
  | nil => simp [setFirst]
  | cons e rest ih =>
      obtain ⟨n, v⟩ := e
      simp only [List.any_cons, Bool.or_eq_false_iff, decide_eq_false_iff_not] at h
      simp [setFirst, h.1, ih h.2]

theorem any_of_get_eq_some {headers : HeaderMap} {name' : String} {v : HeaderValue}
    (h : headers.get name' = some v) : headers.any (·.1 = name') = true := by
  obtain ⟨e, he, -⟩ := Option.map_eq_some'.mp h
  have hp := List.find?_some he
  exact List.any_eq_true.mpr ⟨e, List.mem_of_find?_eq_some he, hp⟩

/-- At the first entry of `name`, `get` finds its value. -/
theorem get_append_cons (pre post : HeaderMap) (v : HeaderValue) (hpre : ∀ e ∈ pre, e.1 ≠ name) :
    get (pre ++ (name, v) :: post) name = some v := by
  induction pre with
  | nil => simp [get_cons]
  | cons e rest ih =>
      rw [List.cons_append, get_cons, if_neg (hpre e (List.mem_cons_self _ _)),
        ih fun e he => hpre e (List.mem_cons_of_mem _ he)]

/-- `setFirst` replaces the value of the first entry of `name` in place and
drops the later ones. -/
theorem setFirst_append_cons (pre post : HeaderMap) (v : HeaderValue) (hpre : ∀ e ∈ pre, e.1 ≠ name) :
    setFirst name value (pre ++ (name, v) :: post) = pre ++ (name, value) :: post.filter (·.1 ≠ name) := by
  induction pre with
  | nil => simp [setFirst]
  | cons e rest ih =>
      obtain ⟨n, w⟩ := e
      have hn : n ≠ name := hpre (n, w) (List.mem_cons_self _ _)
      simp [setFirst, hn, ih fun e he => hpre e (List.mem_cons_of_mem _ he)]

/-- Inserting a value twice is inserting it once. -/
theorem insert_insert (headers : HeaderMap) :
    (headers.insert name value).insert name value = headers.insert name value := by
  rw [insert, if_pos (any_of_get_eq_some (by simp : (headers.insert name value).get name = some value))]
  unfold insert
  split
  · exact setFirst_setFirst name value headers
  · exact setFirst_append_of_absent name value headers (Bool.eq_false_iff.mpr ‹_›)

end HeaderMap

/-- The header rewrite of `ContentTypeCleaner::call`. -/
def cleanContentType (headers : HeaderMap) : HeaderMap :=
  match headers.get "content-type" with
  | some value =>
      if cleanType value = applicationSdp then headers.insert "content-type" applicationSdp else headers
  | none => headers

/-- What the cleaner passes to the inner endpoint. -/
structure Request where
  headers : HeaderMap
  body : List UInt8

/-- `ContentTypeCleaner::call` up to the inner endpoint: the request passed on,
or the error of reading the body. -/
def call {E : Type} (bodyRead : Except E (List UInt8)) (req : Request) : Except E Request := do
  let bodyBytes ← bodyRead
  return ⟨cleanContentType req.headers, bodyBytes⟩

theorem cleanType_applicationSdp : cleanType applicationSdp = applicationSdp := by decide

/-- The header list after the cleaner. If the first `content-type` has the
media type `application/sdp`, that entry becomes exactly `application/sdp` in
its place and the later `content-type` entries are dropped; every other
header keeps its place and value. Otherwise, and with no `content-type`, the
list is unchanged. -/
theorem cleanContentType_headers (headers : HeaderMap) :
    (∀ pre v post, headers = pre ++ ("content-type", v) :: post → (∀ e ∈ pre, e.1 ≠ "content-type") →
      cleanContentType headers =
        if cleanType v = applicationSdp then
          pre ++ ("content-type", applicationSdp) :: post.filter (·.1 ≠ "content-type")
        else headers) ∧
    ((∀ e ∈ headers, e.1 ≠ "content-type") → cleanContentType headers = headers) := by
  refine ⟨fun pre v post hh hpre => ?_, fun habs => ?_⟩
  · subst hh
    have hget := HeaderMap.get_append_cons "content-type" pre post v hpre
    simp only [cleanContentType, hget]
    split
    · rw [HeaderMap.insert, if_pos (HeaderMap.any_of_get_eq_some hget),
        HeaderMap.setFirst_append_cons _ _ _ _ _ hpre]
    · rfl
  · have hnone : headers.get "content-type" = none :=
      HeaderMap.get_eq_none_of_absent _ _ (List.any_eq_false.mpr fun e he h => habs e he (by simpa using h))
    simp [cleanContentType, hnone]

/-- Cleaning twice is cleaning once. -/
theorem cleanContentType_idem (headers : HeaderMap) :
    cleanContentType (cleanContentType headers) = cleanContentType headers := by
  cases hv : headers.get "content-type" with
  | none => simp [cleanContentType, hv]
  | some value =>
      by_cases hsdp : cleanType value = applicationSdp
      · have hclean : cleanContentType headers = headers.insert "content-type" applicationSdp := by
          simp [cleanContentType, hv, hsdp]
        rw [hclean]
        simp [cleanContentType, cleanType_applicationSdp, HeaderMap.insert_insert]
      · simp [cleanContentType, hv, hsdp]

example :
    cleanContentType [("content-type", "application/sdp; charset=utf-8".toUTF8.data.toList)] =
      [("content-type", applicationSdp)] := by
  decide

end MediaServer.Http.ContentType
