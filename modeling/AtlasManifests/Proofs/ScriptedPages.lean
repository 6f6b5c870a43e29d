import AtlasManifests.ControlPlane.Page
import Mathlib.Algebra.Order.Floor.Div
import Mathlib.Data.List.Basic

/-! # Listings against any server

What a listing does depends on the first page that ends it: one that cannot be had, that is not
full, or that brings in as many items as it reports.  A server answers by a `PageScript`, which may
be as odd as it likes; `PageScript.EndsFirst` says which page of it is that first one.  One page at
a time, the listing asks for the pages up to it and for no other (`pagesFrom_serve`), and gives all
their items, or nothing but the failure (`listing_allOrNothing`).  The listings of several providers
go on like this until the first one of them fails (`paginateEach_of_listed`).

A server that serves the pages of a list without fault is such a script, so the number of its pages
that are asked for is the number of the first page that ends the list (`paginate_serve`).
-/
namespace AtlasManifests

variable {ε α : Type}

/-! ## One page at a time -/

section
variable {fetch : PageRequest → Traced ε (Page α)} {left received : Nat} {request : PageRequest}
  {events : List ε}

theorem pagesFrom_failed {e : Error} (h : fetch request = ⟨events, .error e⟩) :
    pagesFrom fetch (left + 1) request received = ⟨events, .error e⟩ := by
  rw [pagesFrom, h]
  rfl

theorem pagesFrom_last {page : Page α} (h : fetch request = ⟨events, .ok page⟩)
    (hlast : page.isLast request.size (received + page.items.length) = true) :
    pagesFrom fetch (left + 1) request received = ⟨events, .ok page.items⟩ := by
  rw [pagesFrom, h]
  show (⟨events ++ _, _⟩ : Traced ε (List α)) = _
  simp only [hlast, if_true, Traced.events_pure, Traced.result_pure, List.append_nil]

theorem pagesFrom_more {page : Page α} {later : List ε} {result : Except Error (List α)}
    (h : fetch request = ⟨events, .ok page⟩)
    (hlast : page.isLast request.size (received + page.items.length) = false)
    (hlater : pagesFrom fetch left request.next (received + page.items.length) = ⟨later, result⟩) :
    pagesFrom fetch (left + 1) request received =
      ⟨events ++ later, result.map (page.items ++ ·)⟩ := by
  rw [pagesFrom, h]
  show (⟨events ++ _, _⟩ : Traced ε (List α)) = _
  simp only [hlast, Bool.false_eq_true, if_false, hlater]
  cases result <;> simp [Traced.events_bind, Traced.result_bind, Except.map, Except.bind]

end

/-! ## Scripts of pages -/

/-- The requests for the first pages, up to a number. -/
def PageRequest.pages (size n : Nat) : List PageRequest := (List.range' 1 n).map fun m => ⟨m, size⟩

/-- What a server answers to requests for pages: pages, or why there are none. -/
abbrev PageScript (α : Type) : Type := PageRequest → Except Error (Page α)

namespace PageScript

open PageRequest (clamp)

variable (script : PageScript α) (event : PageRequest → ε) (size : Nat)

/-- A server that answers by a script.  Each request is an event. -/
def serve (request : PageRequest) : Traced ε (Page α) := ⟨[event request], script request⟩

/-- The items of a page by its number; none if it cannot be had. -/
def items (n : Nat) : List α :=
  match script ⟨n, size⟩ with
  | .ok page => page.items
  | .error _ => []

/-- The items of the first pages, up to a number. -/
def found (n : Nat) : List α := (List.range' 1 n).flatMap (script.items size)

variable {script size}

theorem found_succ (n : Nat) :
    script.found size (n + 1) = script.found size n ++ script.items size (n + 1) := by
  rw [found, List.range'_1_concat, List.flatMap_append, List.flatMap_singleton, found,
    Nat.add_comm 1 n]

theorem items_of_ok {n : Nat} {page : Page α} (h : script ⟨n, size⟩ = .ok page) :
    script.items size n = page.items := by
  rw [items, h]

variable (script size)

/-- Why a page is the last one that is asked for. -/
inductive Ends (n : Nat) : Prop
  /-- It cannot be had. -/
  | failed {e : Error} (h : script ⟨n, size⟩ = .error e)
  /-- It is not full. -/
  | short {page : Page α} (h : script ⟨n, size⟩ = .ok page) (hshort : page.items.length < size)
  /-- With it, so many items have been found as it reports. -/
  | complete {page : Page α} {total : Nat} (h : script ⟨n, size⟩ = .ok page)
      (htotal : page.total = some total) (hall : total ≤ (script.found size n).length)

/-- A page is the first one that ends a listing.  The numbers of pages have 32 bits. -/
structure EndsFirst (n : Nat) : Prop where
  pos : 0 < n
  le : n ≤ maxPages
  ends : script.Ends size n
  before : ∀ m < n, 0 < m → ¬ script.Ends size m

/-- A listing is complete with a page. -/
structure Completes (n : Nat) : Prop extends script.EndsFirst size n where
  answered : ∃ page, script ⟨n, size⟩ = .ok page

/-- A listing fails at a page. -/
structure Fails (n : Nat) (e : Error) : Prop extends script.EndsFirst size n where
  failed : script ⟨n, size⟩ = .error e

variable {script size}

theorem ends_iff_isLast {n : Nat} {page : Page α} (h : script ⟨n, size⟩ = .ok page) :
    script.Ends size n ↔ page.isLast size (script.found size n).length = true := by
  rw [Page.isLast, Bool.or_eq_true, decide_eq_true_eq, Option.any_eq_true]
  constructor
  · rintro (hfail | ⟨hpage, hshort⟩ | ⟨hpage, htotal, hall⟩)
    · cases h.symm.trans hfail
    · obtain rfl := Except.ok.inj (h.symm.trans hpage)
      exact .inl hshort
    · obtain rfl := Except.ok.inj (h.symm.trans hpage)
      exact .inr ⟨_, htotal, decide_eq_true hall⟩
  · rintro (hshort | ⟨total, htotal, hall⟩)
    · exact .short h hshort
    · exact .complete h htotal (of_decide_eq_true hall)

instance (n : Nat) : Decidable (script.Ends size n) :=
  match h : script ⟨n, size⟩ with
  | .error _ => isTrue (.failed h)
  | .ok _ => decidable_of_iff _ (ends_iff_isLast h).symm

theorem endsFirst_iff {n : Nat} : script.EndsFirst size n ↔
    0 < n ∧ n ≤ maxPages ∧ script.Ends size n ∧ ∀ m < n, 0 < m → ¬ script.Ends size m :=
  ⟨fun h => ⟨h.pos, h.le, h.ends, h.before⟩, fun ⟨pos, le, ends, before⟩ =>
    ⟨pos, le, ends, before⟩⟩

instance (n : Nat) : Decidable (script.EndsFirst size n) := decidable_of_iff _ endsFirst_iff.symm

/-- **A listing asks for the pages up to the first one that ends it**, and for no other.  Here it
has got as far as some page. -/
theorem pagesFrom_serve {wrap : Error → Error} {k n left : Nat} (hk : k < n) (hleft : n ≤ k + left)
    (hends : script.Ends size n) (hbefore : ∀ m < n, k < m → ¬ script.Ends size m) :
    pagesFrom (fun request => (script.serve event request).mapError wrap) left ⟨k + 1, size⟩
        (script.found size k).length =
      ⟨(List.range' (k + 1) (n - k)).map fun m => event ⟨m, size⟩,
        ((script ⟨n, size⟩).mapError wrap).map fun _ =>
          (List.range' (k + 1) (n - k)).flatMap (script.items size)⟩ := by
  induction left generalizing k with
  | zero => omega
  | succ left ih =>
    have hfirst : script.Ends size (k + 1) → n = k + 1 := fun hend =>
      le_antisymm (Nat.le_of_not_lt fun hlt => hbefore (k + 1) hlt k.lt_succ_self hend) hk
    cases hpage : script ⟨k + 1, size⟩ with
    | error e =>
      obtain rfl := hfirst (.failed hpage)
      have hserve : (script.serve event ⟨k + 1, size⟩).mapError wrap =
          ⟨[event ⟨k + 1, size⟩], .error (wrap e)⟩ := by
        rw [serve, hpage]
        rfl
      rw [pagesFrom_failed hserve, Nat.add_sub_cancel_left, hpage]
      rfl
    | ok page =>
      have hserve : (script.serve event ⟨k + 1, size⟩).mapError wrap =
          ⟨[event ⟨k + 1, size⟩], .ok page⟩ := by
        rw [serve, hpage]
        rfl
      have hfound : (script.found size k).length + page.items.length =
          (script.found size (k + 1)).length := by
        rw [found_succ, items_of_ok hpage, List.length_append]
      have hlast := ends_iff_isLast hpage
      rw [← hfound] at hlast
      by_cases hend : script.Ends size (k + 1)
      · obtain rfl := hfirst hend
        rw [pagesFrom_last hserve (hlast.mp hend), Nat.add_sub_cancel_left, hpage, List.range'_one,
          List.flatMap_singleton, items_of_ok hpage]
        rfl
      · -- the pages behind this one are those of the induction
        have hlt : k + 1 < n := lt_of_le_of_ne hk fun heq => hend (heq ▸ hends)
        have hlater := ih hlt (by omega) fun m hm hkm => hbefore m hm (Nat.lt_of_succ_lt hkm)
        rw [← hfound] at hlater
        have hcount : n - k = n - (k + 1) + 1 := by omega
        rw [pagesFrom_more hserve (Bool.eq_false_iff.mpr (mt hlast.mpr hend)) hlater, hcount,
          List.range'_succ, List.flatMap_cons, items_of_ok hpage]
        cases script ⟨n, size⟩ <;> rfl

/-- What a listing asks for, and what it makes of the answer to the last request. -/
theorem paginate_serve_eq (subject : String) (provider : Option Provider) {requested n : Nat}
    (h : script.EndsFirst (clamp requested) n) :
    paginate subject provider requested (script.serve event) =
      ⟨(PageRequest.pages (clamp requested) n).map event,
        ((script ⟨n, clamp requested⟩).mapError (.fetch subject provider)).map fun _ =>
          script.found (clamp requested) n⟩ := by
  rw [PageRequest.pages, List.map_map]
  exact pagesFrom_serve event h.pos (h.le.trans (Nat.le_add_left _ _)) h.ends h.before

theorem Completes.paginate_eq (subject : String) (provider : Option Provider) {requested n : Nat}
    (h : script.Completes (clamp requested) n) :
    paginate subject provider requested (script.serve event) =
      ⟨(PageRequest.pages (clamp requested) n).map event,
        .ok (script.found (clamp requested) n)⟩ := by
  obtain ⟨page, hpage⟩ := h.answered
  rw [paginate_serve_eq event subject provider h.toEndsFirst, hpage]
  rfl

theorem Fails.paginate_eq (subject : String) (provider : Option Provider) {requested n : Nat}
    {e : Error} (h : script.Fails (clamp requested) n e) :
    paginate subject provider requested (script.serve event) =
      ⟨(PageRequest.pages (clamp requested) n).map event, .error (.fetch subject provider e)⟩ := by
  rw [paginate_serve_eq event subject provider h.toEndsFirst, h.failed]
  rfl

end PageScript

/-! ## One provider after the other -/

section
variable {subject : String} {requested : Nat} {fetch : Provider → PageRequest → Traced ε (Page α)}
  {events : Provider → List ε} {found : Provider → List α}

theorem paginateEach_failed {p : Provider} {asked : List ε} {e : Error}
    (h : paginate subject (some p) requested (fetch p) = ⟨asked, .error e⟩)
    (later : List Provider) :
    paginateEach subject requested fetch (p :: later) = ⟨asked, .error e⟩ := by
  rw [paginateEach, h]
  rfl

/-- Providers that are listed without failure leave the rest to the providers after them. -/
theorem paginateEach_of_listed {before : List Provider}
    (h : ∀ p ∈ before,
      paginate subject (some p) requested (fetch p) = ⟨events p, .ok (found p)⟩)
    {later : List Provider} {asked : List ε} {result : Except Error (List α)}
    (hlater : paginateEach subject requested fetch later = ⟨asked, result⟩) :
    paginateEach subject requested fetch (before ++ later) =
      ⟨before.flatMap events ++ asked, result.map (before.flatMap found ++ ·)⟩ := by
  induction before with
  | nil =>
    rw [List.nil_append, hlater]
    cases result <;> rfl
  | cons p before ih =>
    have hbefore := ih fun q hq => h q (List.mem_cons_of_mem _ hq)
    rw [List.cons_append, paginateEach, h p List.mem_cons_self, hbefore]
    show (⟨events p ++ _, _⟩ : Traced ε (List α)) = _
    cases result <;>
      simp [Traced.events_bind, Traced.result_bind, Except.map, Except.bind]

end

/-- **All or nothing, whatever the server answers.**  Let a page be the first one that cannot be
had, that is not full, or that brings in as many items as it reports.  Then a listing asks for the
pages up to it and for no other.  It gives all their items; or, if that page cannot be had, no items
but the failure, within the subject of the listing and its provider.  The listings of all providers
give the items of AWS, then those of Azure, then those of GCP; or else the failure of the first
provider that fails, after which no provider is asked for anything. -/
theorem listing_allOrNothing (subject : String) (requested : Nat) :
    (∀ (event : PageRequest → ε) (provider : Option Provider) (script : PageScript α) (n : Nat),
      script.EndsFirst (PageRequest.clamp requested) n →
      (∀ page, script ⟨n, PageRequest.clamp requested⟩ = .ok page →
        paginate subject provider requested (script.serve event) =
          ⟨(PageRequest.pages (PageRequest.clamp requested) n).map event,
            .ok (script.found (PageRequest.clamp requested) n)⟩) ∧
      ∀ e, script ⟨n, PageRequest.clamp requested⟩ = .error e →
        paginate subject provider requested (script.serve event) =
          ⟨(PageRequest.pages (PageRequest.clamp requested) n).map event,
            .error (.fetch subject provider e)⟩) ∧
    ∀ (event : Provider → PageRequest → ε) (script : Provider → PageScript α)
        (last : Provider → Nat),
      let asked p := (PageRequest.pages (PageRequest.clamp requested) (last p)).map (event p)
      let found p := (script p).found (PageRequest.clamp requested) (last p)
      ((∀ p, (script p).Completes (PageRequest.clamp requested) (last p)) →
        paginatePerProvider subject requested (fun p => (script p).serve (event p)) =
          ⟨asked .aws ++ asked .azure ++ asked .gcp,
            .ok (found .aws ++ found .azure ++ found .gcp)⟩) ∧
      ∀ before p after e, Provider.all = before ++ p :: after →
        (∀ q ∈ before, (script q).Completes (PageRequest.clamp requested) (last q)) →
        (script p).Fails (PageRequest.clamp requested) (last p) e →
        paginatePerProvider subject requested (fun p => (script p).serve (event p)) =
          ⟨(before ++ [p]).flatMap asked, .error (.fetch subject (some p) e)⟩ := by
  refine ⟨fun event provider script n h => ⟨fun page hpage => ?_, fun e he => ?_⟩,
    fun event script last => ⟨fun h => ?_, fun before p after e hall hbefore hp => ?_⟩⟩
  · exact PageScript.Completes.paginate_eq event subject provider ⟨h, page, hpage⟩
  · exact PageScript.Fails.paginate_eq event subject provider ⟨h, he⟩
  · have hlisted : ∀ p ∈ Provider.all, paginate subject (some p) requested _ = _ := fun p _ =>
      (h p).paginate_eq (event p) subject (some p)
    have hnone : paginateEach subject requested (fun p => (script p).serve (event p)) [] =
        ⟨[], .ok []⟩ := rfl
    rw [paginatePerProvider, ← List.append_nil Provider.all, paginateEach_of_listed hlisted hnone]
    simp [Provider.all, Except.map]
  · have hlisted : ∀ q ∈ before, paginate subject (some q) requested _ = _ := fun q hq =>
      (hbefore q hq).paginate_eq (event q) subject (some q)
    have hfailed : paginateEach subject requested (fun p => (script p).serve (event p))
        (p :: after) = _ := paginateEach_failed (hp.paginate_eq (event p) subject (some p)) after
    rw [paginatePerProvider, hall, paginateEach_of_listed hlisted hfailed, List.flatMap_append,
      List.flatMap_singleton]
    rfl

/-- Providers that answer oddly.  The first one takes back how many items it has, the second one has
no second page, and the last one has no last page. -/
def oddPages : Provider → PageScript Nat
  | .aws, ⟨1, _⟩ => .ok ⟨[1, 2], some 9⟩
  | .aws, _ => .ok ⟨[3, 4], some 4⟩
  | .azure, ⟨1, _⟩ => .ok ⟨[5, 6], none⟩
  | .azure, _ => .error (.api 503 "down")
  | .gcp, _ => .ok ⟨[7, 8], none⟩

/-- The items of two providers are lost with the failure of the second one, and the last one, which
would never come to an end, is not asked. -/
theorem listing_allOrNothing_oddPages :
    (oddPages .aws).Completes 2 2 ∧ (oddPages .azure).Fails 2 2 (.api 503 "down") ∧
    paginate "deployment" none 2 ((oddPages .aws).serve id) =
      ⟨[⟨1, 2⟩, ⟨2, 2⟩], .ok [1, 2, 3, 4]⟩ ∧
    paginatePerProvider "network peering" 2 (fun p => (oddPages p).serve (p, ·)) =
      ⟨[(.aws, ⟨1, 2⟩), (.aws, ⟨2, 2⟩), (.azure, ⟨1, 2⟩), (.azure, ⟨2, 2⟩)],
        .error (.fetch "network peering" (some .azure) (.api 503 "down"))⟩ := by
  have haws : (oddPages .aws).Completes 2 2 := ⟨by decide, _, rfl⟩
  have hazure : (oddPages .azure).Fails 2 2 (.api 503 "down") := ⟨by decide, rfl⟩
  refine ⟨haws, hazure, ?_, ?_⟩
  · exact ((listing_allOrNothing "deployment" 2).1 id none (oddPages .aws) 2 haws.toEndsFirst).1 _
      rfl
  · refine ((listing_allOrNothing "network peering" 2).2 (fun p request => (p, request)) oddPages
      (fun _ => 2)).2 [.aws] .azure [.gcp] _ rfl ?_ hazure
    intro q hq
    obtain rfl := List.mem_singleton.mp hq
    exact haws

/-! ## Servers without fault -/

namespace PageScript

variable {size : Nat}

/-- If pages end a listing from some number on, the first one that does is that number, or the very
first page. -/
theorem endsFirst_of_iff {script : PageScript α} {stop : Nat} (hle : stop ≤ maxPages)
    (h : ∀ n, 0 < n → (script.Ends size n ↔ stop ≤ n)) : script.EndsFirst size (max 1 stop) where
  pos := le_max_left 1 stop
  le := max_le (by decide) hle
  ends := (h _ (le_max_left 1 stop)).mpr (le_max_right 1 stop)
  before m hm hpos hends := by
    have hstop := (h m hpos).mp hends
    omega

variable {list : List α} {total : Option Nat}

/-- The script of a server that serves the pages of a list. -/
def ofList (list : List α) (total : Option Nat) : PageScript α :=
  fun request => .ok (Page.serve list total request)

theorem items_ofList (n : Nat) :
    (ofList list total).items size (n + 1) = (list.drop (n * size)).take size := rfl

theorem found_ofList (n : Nat) : (ofList list total).found size n = list.take (n * size) := by
  induction n with
  | zero => simp [found]
  | succ n ih => rw [found_succ, ih, items_ofList, Nat.succ_mul, List.take_add]

/-- A page of a list ends the listing if the list is shorter than the pages up to it, or if they
hold as many items as are reported. -/
theorem ends_ofList_iff (hsize : 0 < size) {n : Nat} (hn : 0 < n) :
    (ofList list total).Ends size n ↔
      list.length < n * size ∨ ∃ t, total = some t ∧ t ≤ (list.take (n * size)).length := by
  have hpage : ofList list total ⟨n, size⟩ = .ok (.serve list total ⟨n, size⟩) := rfl
  -- a page is short if the list ends before the page does
  have hshort : (Page.serve list total ⟨n, size⟩).items.length < size ↔
      list.length < n * size := by
    obtain ⟨k, rfl⟩ := Nat.exists_eq_succ_of_ne_zero hn.ne'
    simp only [Page.serve, List.length_take, List.length_drop, Nat.succ_eq_add_one,
      Nat.add_sub_cancel, Nat.succ_mul]
    omega
  rw [ends_iff_isLast hpage, Page.isLast, Bool.or_eq_true, decide_eq_true_eq, hshort, found_ofList,
    Option.any_eq_true]
  simp only [Page.serve, decide_eq_true_eq]

/-- A server that does not report the length is asked until a page is not full. -/
theorem ends_ofList_none_iff (hsize : 0 < size) {n : Nat} (hn : 0 < n) :
    (ofList list none).Ends size n ↔ list.length / size + 1 ≤ n := by
  rw [ends_ofList_iff hsize hn, Nat.succ_le_iff, Nat.div_lt_iff_lt_mul hsize]
  simp

/-- A server that reports the length is asked until the pages hold as many items. -/
theorem ends_ofList_some_iff (hsize : 0 < size) {n : Nat} (hn : 0 < n) :
    (ofList list (some list.length)).Ends size n ↔ list.length ⌈/⌉ size ≤ n := by
  rw [ends_ofList_iff hsize hn, ceilDiv_le_iff_le_mul hsize, List.length_take, Nat.mul_comm n]
  simp only [Option.some.injEq, exists_eq_left']
  omega

/-- The first pages of a list hold all of it if they are long enough. -/
theorem paginate_ofList (event : PageRequest → ε) (subject : String) (provider : Option Provider)
    {requested n : Nat} (hfirst : (ofList list total).EndsFirst (PageRequest.clamp requested) n)
    (hall : list.length ≤ n * PageRequest.clamp requested) :
    paginate subject provider requested ((ofList list total).serve event) =
      ⟨(PageRequest.pages (PageRequest.clamp requested) n).map event, .ok list⟩ := by
  have hcompletes : (ofList list total).Completes (PageRequest.clamp requested) n :=
    ⟨hfirst, _, rfl⟩
  rw [hcompletes.paginate_eq event subject provider, found_ofList, List.take_of_length_le hall]

end PageScript

/-- **A faithful server is asked as often as it must be.**  Let a server serve the pages of a list,
of any size that is asked for.  Then a listing gives the list and asks for its pages one after the
other, in the size that was asked for or the nearest that is served.  There are so many as the list
fills, but at least one, if the server reports the length of the list; and one more than the list
fills to the end if it does not. -/
theorem paginate_serve (event : PageRequest → ε) (subject : String) (provider : Option Provider)
    (list : List α) (requested : Nat)
    (h : list.length < PageRequest.clamp requested * maxPages) :
    (paginate subject provider requested fun request =>
        ⟨[event request], .ok (.serve list (some list.length) request)⟩) =
      ⟨(PageRequest.pages (PageRequest.clamp requested)
          (max 1 (list.length ⌈/⌉ PageRequest.clamp requested))).map event, .ok list⟩ ∧
    (paginate subject provider requested fun request =>
        ⟨[event request], .ok (.serve list none request)⟩) =
      ⟨(PageRequest.pages (PageRequest.clamp requested)
          (list.length / PageRequest.clamp requested + 1)).map event, .ok list⟩ := by
  have hsize := PageRequest.clamp_pos requested
  constructor
  · have hle : list.length ⌈/⌉ PageRequest.clamp requested ≤ maxPages :=
      (ceilDiv_le_iff_le_mul hsize).mpr h.le
    refine PageScript.paginate_ofList event subject provider
      (PageScript.endsFirst_of_iff hle fun n hn => PageScript.ends_ofList_some_iff hsize hn) ?_
    rw [Nat.mul_comm]
    exact (ceilDiv_le_iff_le_mul hsize).mp (le_max_right 1 _)
  · have hle : list.length / PageRequest.clamp requested + 1 ≤ maxPages :=
      (Nat.div_lt_iff_lt_mul hsize).mpr (Nat.mul_comm _ _ ▸ h)
    have hfirst := PageScript.endsFirst_of_iff hle fun n hn =>
      PageScript.ends_ofList_none_iff hsize hn
    rw [max_eq_right (Nat.le_add_left 1 _)] at hfirst
    refine PageScript.paginate_ofList event subject provider hfirst ?_
    exact ((Nat.div_lt_iff_lt_mul hsize).mp (Nat.lt_succ_self _)).le

/-- A list that fills its pages to the end, in a size that is too large to be served: the server
that does not report the length is asked for an empty page more. -/
theorem paginate_serve_full :
    (List.range 1000).length < PageRequest.clamp 700 * maxPages ∧
    (paginate "deployment" none 700 fun request =>
        ⟨[request], .ok (.serve (List.range 1000) (some 1000) request)⟩) =
      ⟨[⟨1, 500⟩, ⟨2, 500⟩], .ok (List.range 1000)⟩ ∧
    (paginate "deployment" none 700 fun request =>
        ⟨[request], .ok (.serve (List.range 1000) none request)⟩) =
      ⟨[⟨1, 500⟩, ⟨2, 500⟩, ⟨3, 500⟩], .ok (List.range 1000)⟩ := by
  have hlength : (List.range 1000).length = 1000 := List.length_range
  have hshort : (List.range 1000).length < PageRequest.clamp 700 * maxPages := by
    rw [hlength]
    decide
  obtain ⟨hreported, hunreported⟩ :=
    paginate_serve id "deployment" none (List.range 1000) 700 hshort
  rw [hlength] at hreported hunreported
  exact ⟨hshort, hreported, hunreported⟩

end AtlasManifests
