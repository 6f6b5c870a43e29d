import AtlasManifests.Traced

/-! # Pages

Long listings come in pages. `paginate` asks for one page after the other until one is
not full or the number of items that the control plane reports has come in. `Page.serve`
is the page that a faithful control plane answers with.
-/
namespace AtlasManifests

/-- A request for a page. The first page has the number one. -/
structure PageRequest where
  number : Nat
  size : Nat
  deriving DecidableEq

namespace PageRequest

/-- A size that the control plane serves. -/
def clamp (size : Nat) : Nat := min (max size 1) maxPageSize.toNat

/-- The first page of a size. -/
def first (size : Nat) : PageRequest := ⟨1, clamp size⟩

/-- The page after a page. -/
def next (r : PageRequest) : PageRequest := { r with number := r.number + 1 }

theorem clamp_pos (size : Nat) : 0 < clamp size := by
  have : maxPageSize.toNat = 500 := rfl
  simp only [clamp]
  omega

@[simp] theorem first_number (size : Nat) : (first size).number = 1 := rfl

@[simp] theorem next_number (r : PageRequest) : r.next.number = r.number + 1 := rfl

@[simp] theorem next_size (r : PageRequest) : r.next.size = r.size := rfl

end PageRequest

/-- One page of a listing. -/
structure Page (α : Type) where
  items : List α
  /-- How many items there are on all pages, if the control plane says so. -/
  total : Option Nat

namespace Page

variable {α : Type}

/-- The page of a list that a request asks for. -/
def serve (items : List α) (total : Option Nat) (request : PageRequest) : Page α :=
  ⟨(items.drop ((request.number - 1) * request.size)).take request.size, total⟩

/-- Whether a page is the last one, with so many items on all pages up to it. -/
def isLast (page : Page α) (size received : Nat) : Bool :=
  page.items.length < size || page.total.any (· ≤ received)

end Page

/-- How many pages are asked for at most: as many as there are page numbers of 32 bits. -/
def maxPages : Nat := 4294967295

section
variable {ε α : Type}

/-- The items of the pages from a request on, given how many have been received. -/
def pagesFrom (fetch : PageRequest → Traced ε (Page α)) :
    Nat → PageRequest → Nat → Traced ε (List α)
  | 0, _, _ => .fail (.exhausted "page numbers")
  | left + 1, request, received => do
    let page ← fetch request
    let received := received + page.items.length
    if page.isLast request.size received then return page.items
    return page.items ++ (← pagesFrom fetch left request.next received)

/-- All items of a listing. A page that cannot be had fails with the subject of the
listing and its provider. -/
def paginate (subject : String) (provider : Option Provider) (size : Nat)
    (fetch : PageRequest → Traced ε (Page α)) : Traced ε (List α) :=
  pagesFrom (fun request => (fetch request).mapError (.fetch subject provider)) maxPages
    (.first size) 0

/-- All items of the listings of some providers, one listing after the other. -/
def paginateEach (subject : String) (size : Nat)
    (fetch : Provider → PageRequest → Traced ε (Page α)) : List Provider → Traced ε (List α)
  | [] => return []
  | provider :: rest => do
    let items ← paginate subject (some provider) size (fetch provider)
    return items ++ (← paginateEach subject size fetch rest)

/-- All items of the listings of every provider. -/
def paginatePerProvider (subject : String) (size : Nat)
    (fetch : Provider → PageRequest → Traced ε (Page α)) : Traced ε (List α) :=
  paginateEach subject size fetch Provider.all

end

end AtlasManifests
