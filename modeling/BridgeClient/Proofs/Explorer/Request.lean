import BridgeClient.Explorer.History
import BridgeClient.Proofs.Url.Form
import BridgeClient.Proofs.Url.Unmarked

set_option autoImplicit false

/-!
The request that an explorer gets. Its query is read as the parameters that were meant, whatever
characters the watched address and the key are made of.
-/
namespace BridgeClient

theorem Radix.decimal_of_pos {n : Nat} (positive : 0 < n) :
    ((digits 10 n).map Nat.digitChar).reverse = Nat.toDigits 10 n := by
  induction n using Nat.strongRecOn with
  | _ n ih =>
      rw [digits_of_pos (by decide) positive, List.map_cons, List.reverse_cons]
      by_cases small : n < 10
      · rw [Nat.toDigits_of_lt_base small, Nat.div_eq_of_lt small, Nat.mod_eq_of_lt small,
          digits_zero]
        rfl
      · have last : Nat.toDigits 10 n = Nat.toDigits 10 (n / 10) ++ [(n % 10).digitChar] :=
          Nat.toDigits_of_base_le (by decide) (Nat.le_of_not_lt small)
        rw [ih (n / 10) (by omega) (by omega), last]

theorem Radix.ofList_decimal (n : Nat) : String.ofList (decimal n) = toString n := by
  rw [Nat.toString_eq_ofList_toDigits, decimal]
  split
  · rename_i zero
    rw [zero]
    rfl
  · rw [Radix.decimal_of_pos (by omega)]

namespace Explorer

/-- The path of the requests. -/
theorem isPath_api : Url.IsPath "/api".toList where
  slash := rfl
  visible := by simp
  plain := by simp [Url.Unmarked]

theorem decode?_parameters (explorer : Explorer) (watch : DepositWatch) :
    Form.decode? (String.ofList (Form.append [] (explorer.parameters watch))) =
      some [("module", "account"), ("action", "tokentx"), ("address", watch.address),
        ("startblock", toString (watch.blockStart.getD 0)), ("sort", "desc"),
        ("apikey", explorer.apiKey)] := by
  rw [Form.decode?_append, parameters, Radix.ofList_decimal]

theorem requestUrl_eq_ok_iff {apiUrl apiKey : String} {watch : DepositWatch} {url : Url} :
    (Explorer.new apiUrl apiKey).requestUrl watch = .ok url ↔
      ∃ api, Url.parse (Url.withoutSlashes apiUrl ++ String.ofList "/api".toList) = .ok api ∧
        api.withPairs ((Explorer.new apiUrl apiKey).parameters watch) = url := by
  have api : (Explorer.new apiUrl apiKey).apiUrl ++ "/api" =
      Url.withoutSlashes apiUrl ++ String.ofList "/api".toList := by
    rw [String.ofList_toList]
    rfl
  rw [requestUrl, api]
  generalize Url.parse _ = parsed
  cases parsed <;> simp

/-- For an explorer at a URL of the web, the query of a request holds the six parameters with the
texts that were meant, in this order, and nothing else. Where no blank is left at the end of the
URL's text there is a request, and it goes to that URL's host. -/
theorem request_query_decodes (apiUrl apiKey : String) (watch : DepositWatch) {base : Url}
    (parsed : Url.parse apiUrl = .ok base)
    (web : base.scheme = "http".toList ∨ base.scheme = "https".toList)
    (noQuery : base.query = none) (noFragment : base.fragment = none) :
    (∀ url, (Explorer.new apiUrl apiKey).requestUrl watch = .ok url →
      ∃ query, url.query = some query ∧
        Form.decode? (String.ofList query) = some [("module", "account"), ("action", "tokentx"),
          ("address", watch.address), ("startblock", toString (watch.blockStart.getD 0)),
          ("sort", "desc"), ("apikey", apiKey)]) ∧
    ((∀ c ∈ apiUrl.toList.getLast?, 0x20 < c.toNat) →
      ∃ url, (Explorer.new apiUrl apiKey).requestUrl watch = .ok url ∧
        url.scheme = base.scheme ∧ url.authority = base.authority ∧ url.fragment = none) := by
  have style : Url.styleOf base.scheme = .web := by
    rcases web with same | same <;> rw [same] <;> decide
  constructor
  · intro url requested
    obtain ⟨api, read, rfl⟩ := requestUrl_eq_ok_iff.mp requested
    obtain ⟨query, _⟩ :=
      Url.bare_of_path_behind parsed style noQuery noFragment isPath_api read
    refine ⟨_, rfl, ?_⟩
    rw [query]
    exact decode?_parameters _ watch
  · intro ends
    obtain ⟨api, read, scheme, authority, _, fragment⟩ :=
      Url.parse_extended parsed style noQuery noFragment ends isPath_api
    exact ⟨_, requestUrl_eq_ok_iff.mpr ⟨api, read, rfl⟩, scheme, authority, fragment⟩

/-- Separators, escapes and blanks in the texts are no parameters of their own. -/
theorem request_query_decodes_separators :
    let explorer := Explorer.new "https://explorer.test/v2/" "k+%26&sort=asc"
    let watch : DepositWatch := ⟨"0xab&apikey=é #", "0xcd", 1, some 17000000, 1, none⟩
    ∃ url query, explorer.requestUrl watch = .ok url ∧ url.query = some query ∧
      Form.decode? (String.ofList query) = some [("module", "account"), ("action", "tokentx"),
        ("address", "0xab&apikey=é #"), ("startblock", "17000000"), ("sort", "desc"),
        ("apikey", "k+%26&sort=asc")] := by
  have parsed : Url.parse "https://explorer.test/v2/" = .ok
      ⟨"https".toList, some "explorer.test".toList, "/v2/".toList, none, none⟩ := by
    decide +kernel
  obtain ⟨decodes, requests⟩ := request_query_decodes "https://explorer.test/v2/" "k+%26&sort=asc"
    ⟨"0xab&apikey=é #", "0xcd", 1, some 17000000, 1, none⟩ parsed (Or.inr rfl) rfl rfl
  obtain ⟨url, requested, _⟩ := requests (by simp)
  obtain ⟨query, whole, pairs⟩ := decodes url requested
  exact ⟨url, query, requested, whole, pairs⟩

end Explorer
end BridgeClient
