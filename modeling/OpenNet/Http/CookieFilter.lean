import OpenNet.Http.CookieSecrecy

/-!
# Filtering in front of the jar

`cookie_hooks::update_response_cookies` hands the store a filtered copy of the response's
Set-Cookie values, and the jar applies the same limits again in its own loop.  The jar counts the
bytes of the values that were let through, the hook those of every value it looked at.
-/

namespace OpenNet.Http.CookieJar

open Checked Utf8

variable {lib : CookieLibrary} {url : Url} {limits : CookieLimits}

/-- What the clock and the allocator answer about one header. -/
structure Answer where
  parsedAt : Int
  now : Int
  reserved : Bool := true

/-- The jar asks for answers about a value only if it has a sensible length. -/
abbrev Inspected (limits : CookieLimits) (value : HeaderValue) : Prop :=
  value.bytes ≠ [] ∧ value.bytes.length ≤ limits.maxCookieBytes

/-- The headers of a response with the answers, in the order in which the jar asks. -/
def offer (limits : CookieLimits) (answers : Nat → Answer) : Nat → List HeaderValue → List SetCookie
  | _, [] => []
  | n, value :: values =>
    { answers n with bytes := value.bytes } ::
      offer limits answers (if Inspected limits value then n + 1 else n) values

theorem acceptable_uninspected {value : HeaderValue} (h : ¬Inspected limits value)
    (entries : List StoredCookie) (answer : Answer) :
    acceptable lib limits url entries { answer with bytes := value.bytes } = none := by
  have hlength : value.bytes.isEmpty || limits.maxCookieBytes < value.bytes.length := by
    by_cases hempty : value.bytes = []
    · simp [hempty]
    · simp only [Bool.or_eq_true, decide_eq_true_eq]
      exact .inr (Nat.not_le.mp fun hle => h ⟨hempty, hle⟩)
  simp only [acceptable, readHeader, hlength, if_true]

/-- The two prefix budgets cut at the same value: `shown` of the `total` bytes counted were let
through. -/
theorem receive_filtered (answers : Nat → Answer) :
    ∀ (values : List HeaderValue) (n shown total : Nat) (entries : List StoredCookie),
      shown ≤ total → limits.maxSetCookieBytes < u64Max ∨
        total + (values.map (·.bytes.length)).sum ≤ u64Max →
      receive lib limits url (offer limits answers n (filterSetCookies limits total values)) shown
          entries =
        receive lib limits url (offer limits answers n values) total entries
  | [], _, _, _, _, _, _ => rfl
  | value :: values, n, shown, total, entries, hshown, hfits => by
    rw [List.map_cons, List.sum_cons] at hfits
    have hsaturated : limits.maxSetCookieBytes < saturatingAdd total value.bytes.length ↔
        limits.maxSetCookieBytes < total + value.bytes.length := by
      unfold Http.saturatingAdd
      omega
    rw [filterSetCookies, offer, receive]
    simp only [gt_iff_lt, hsaturated]
    by_cases hover : limits.maxSetCookieBytes < total + value.bytes.length
    · simp only [if_pos hover]
      rfl
    have hexact : saturatingAdd total value.bytes.length = total + value.bytes.length := by
      unfold Http.saturatingAdd
      omega
    simp only [if_neg hover, hexact]
    have hrest : ∀ {n' shown' : Nat} {entries' : List StoredCookie},
        shown' ≤ total + value.bytes.length →
        receive lib limits url (offer limits answers n'
            (filterSetCookies limits (total + value.bytes.length) values)) shown' entries' =
          receive lib limits url (offer limits answers n' values) (total + value.bytes.length)
            entries' := fun h => receive_filtered answers values _ _ _ _ h (by omega)
    by_cases hinspected : Inspected limits value
    · have hshort : ¬limits.maxSetCookieBytes < shown + value.bytes.length := by omega
      simp only [if_pos hinspected, offer, receive, if_neg hshort,
        hrest (Nat.add_le_add_right hshown _)]
    · rw [acceptable_uninspected hinspected]
      simp only [if_neg hinspected]
      exact hrest (by omega)

/-- The loops treat an overflow of the byte count differently: `hfits` excludes values together
longer than `usize::MAX`, and these only for that limit. -/
theorem filtering_transparent (lib : CookieLibrary) (limits : CookieLimits) (now : Int) (url : Url)
    (answers : Nat → Answer) (values : List HeaderValue) (entries : List StoredCookie)
    (hfits : limits.maxSetCookieBytes < u64Max ∨ (values.map (·.bytes.length)).sum ≤ u64Max) :
    setResponseCookies lib limits now url
        (offer limits answers 0 (filterSetCookies limits 0 values)) entries =
      setResponseCookies lib limits now url (offer limits answers 0 values) entries := by
  unfold setResponseCookies
  dsimp only
  rw [receive_filtered answers values 0 0 0 _ (Nat.le_refl 0) (by simpa using hfits)]

/-- An empty value, an oversized one, two cookies, one past the budget. -/
def mixedValues : List HeaderValue :=
  ["", "long=123456", "a=1", "b=2", "c=3"].map fun text => ⟨bytesOf text, false⟩

theorem filtering_transparent_run :
    let limits : CookieLimits := { maxCookieBytes := 10, maxSetCookieBytes := 18 }
    let answers : Nat → Answer := fun _ => ⟨10, 10, true⟩
    (filterSetCookies limits 0 mixedValues).length = 2 ∧
      setResponseCookies plainLibrary limits 10 plainOrigin
          (offer limits answers 0 (filterSetCookies limits 0 mixedValues)) [loginCookie] =
        setResponseCookies plainLibrary limits 10 plainOrigin (offer limits answers 0 mixedValues)
          [loginCookie] :=
  ⟨by decide +kernel,
    filtering_transparent plainLibrary _ 10 plainOrigin _ mixedValues [loginCookie]
      (.inl (by decide))⟩

end OpenNet.Http.CookieJar
