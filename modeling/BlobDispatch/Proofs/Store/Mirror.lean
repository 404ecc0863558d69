import BlobDispatch.Proofs.Listing.Retag
import BlobDispatch.Proofs.Store.Drain
import BlobDispatch.Proofs.Store.Renumbering

/-! One container in two stores. A store mirrors another at a container if it holds this container
alone, with the same metadata and the same blobs under other tags. An operation on the container
then answers in both the same but for the tags, and leaves the one store mirroring the other. -/

namespace BlobDispatch

def Container.retag (f : Tag → Tag) (held : Container) : Container :=
  ⟨held.metadata, held.blobs.map (Blob.retag f)⟩

namespace Store

open Listing

/-- The container that an operation is about, if it is about one. -/
def Operation.container? : Operation → Option String
  | .createContainer name | .deleteContainer name | .containerExists name
  | .containerMetadata name | .setContainerMetadata name _ | .blobCount name => some name
  | .put container _ _ _ _ | .get container _ | .delete container _
  | .setMetadata container _ _ => some container
  | .list query _ | .pages query | .listAll query => query.target.toOption.map (·.container)
  | .containerNames | .service | .setService _ | .size | .inspect => none

private theorem target_of_container? {query : Query} {c : String}
    (about : query.target.toOption.map (·.container) = some c) :
    ∃ target, query.target = .ok target ∧ target.container = c := by
  cases resolved : query.target with
  | error error =>
    rw [resolved] at about
    cases about
  | ok target =>
    rw [resolved] at about
    exact ⟨target, rfl, Option.some.inj about⟩

def Reply.retag (f : Tag → Tag) : Reply → Reply
  | .blob value => .blob (value.retag f)
  | .blobs value => .blobs (value.map (Blob.retag f))
  | .page value => .page (value.retag f)
  | .pages value => .pages (value.map (Page.retag f))
  | other => other

theorem Reply.returned_retag (f : Tag → Tag) (reply : Reply) :
    (reply.retag f).returned = reply.returned.map (Blob.retag f) := by
  cases reply with
  | page value => exact value.blobs_retag f
  | pages value => exact blobs_of_pages_retag f value
  | _ => rfl

structure Mirrors (f : Tag → Tag) (c : String) (s t : Store) : Prop where
  config : t.config = s.config
  container : t.containers.get? c = (s.containers.get? c).map (Container.retag f)
  alone : ∀ other, other ≠ c → t.containers.get? other = none

/-- Answers that are the same but for the tags, and states that mirror each other. -/
inductive Matches (f : Tag → Tag) (c : String) :
    Except Error (Reply × Store) → Except Error (Reply × Store) → Prop
  | refused (error : Error) : Matches f c (.error error) (.error error)
  | answered {reply other : Reply} {s t : Store} (same : other = reply.retag f)
      (mirrors : Mirrors f c s t) : Matches f c (.ok (reply, s)) (.ok (other, t))

namespace Mirrors

variable {f : Tag → Tag} {c : String} {s t : Store} (mirrors : Mirrors f c s t)
include mirrors

theorem container_eq : t.container c = (s.container c).map (Container.retag f) := by
  rw [Store.container, Store.container, mirrors.container]
  cases s.containers.get? c <;> rfl

theorem containerExists_eq : t.containerExists c = s.containerExists c := by
  simp [containerExists, NameTable.contains, mirrors.container]

theorem wellFormed (placed : s.WellFormed) : t.WellFormed := by
  intro containerName held found name blob stored
  by_cases here : containerName = c
  · subst here
    rw [mirrors.container] at found
    obtain ⟨before, there, rfl⟩ := Option.map_eq_some_iff.1 found
    rw [Container.retag, NameTable.get?_map] at stored
    obtain ⟨original, kept, rfl⟩ := Option.map_eq_some_iff.1 stored
    obtain ⟨inside, same, named, long⟩ := placed _ before there name original kept
    exact ⟨inside, same, named, long⟩
  · rw [mirrors.alone containerName here] at found
    cases found

theorem insert {next nextT : Store} {held heldT : Container} (config : next.config = s.config)
    (configT : nextT.config = t.config)
    (changed : next.containers = s.containers.insert c held)
    (changedT : nextT.containers = t.containers.insert c heldT) (same : heldT = held.retag f) :
    Mirrors f c next nextT := by
  constructor
  · rw [configT, mirrors.config, config]
  · rw [changed, changedT, NameTable.get?_insert, NameTable.get?_insert, if_pos rfl, if_pos rfl,
      same]
    rfl
  · intro other apart
    rw [changedT, NameTable.get?_insert_of_ne apart]
    exact mirrors.alone other apart

/-- A question that leaves the state, and is answered the same but for the tags. -/
theorem read {α : Type} {asked askedT : Except Error α} {g : α → α} {reply : α → Reply}
    (same : askedT = asked.map g) (wraps : ∀ value, reply (g value) = (reply value).retag f) :
    Matches f c (asked.map fun value => (reply value, s))
      (askedT.map fun value => (reply value, t)) := by
  rw [same]
  cases asked with
  | error error => exact .refused error
  | ok value => exact .answered (wraps value) mirrors

section Containers

theorem createContainer :
    Matches f c (s.apply (.createContainer c)) (t.apply (.createContainer c)) := by
  rw [apply, apply, Store.createContainer, Store.createContainer, mirrors.containerExists_eq]
  split
  · exact .answered rfl mirrors
  · exact .answered rfl (mirrors.insert rfl rfl rfl rfl rfl)

theorem deleteContainer :
    Matches f c (s.apply (.deleteContainer c)) (t.apply (.deleteContainer c)) := by
  rw [apply, apply, Store.deleteContainer, Store.deleteContainer, mirrors.containerExists_eq]
  refine .answered rfl ⟨mirrors.config, ?_, ?_⟩
  · simp
  · intro other apart
    simp [apart, mirrors.alone other apart]

theorem setContainerMetadata (metadata : Metadata) :
    Matches f c (s.apply (.setContainerMetadata c metadata))
      (t.apply (.setContainerMetadata c metadata)) := by
  rw [apply, apply, Store.setContainerMetadata, Store.setContainerMetadata, mirrors.container_eq]
  cases s.container c with
  | error error => exact .refused error
  | ok held => exact .answered rfl (mirrors.insert rfl rfl rfl rfl rfl)

end Containers

section Blobs

variable (name : String)

theorem get_eq : t.get c name = (s.get c name).map (Blob.retag f) := by
  rw [Store.get, Store.get, mirrors.container_eq]
  cases s.container c with
  | error error => rfl
  | ok held =>
    have there : (held.retag f).blobs.get? name = (held.blobs.get? name).map (Blob.retag f) :=
      NameTable.get?_map _ _ _
    simp only [Except.map, bind, Except.bind, there]
    cases held.blobs.get? name <;> rfl

theorem delete : Matches f c (s.apply (.delete c name)) (t.apply (.delete c name)) := by
  rw [apply, apply, Store.delete, Store.delete, mirrors.container_eq]
  cases s.container c with
  | error error => exact .refused error
  | ok held =>
    refine .answered ?_ (mirrors.insert rfl rfl rfl rfl ?_)
    · exact congrArg Reply.flag (NameTable.contains_map _ _ _)
    · exact congrArg (Container.mk _) (NameTable.map_erase _ _ _).symm

theorem setMetadata (metadata : Metadata) : Matches f c (s.apply (.setMetadata c name metadata))
    (t.apply (.setMetadata c name metadata)) := by
  rw [apply, apply, Store.setMetadata, Store.setMetadata, mirrors.container_eq, mirrors.get_eq]
  cases s.container c with
  | error error => exact .refused error
  | ok held =>
    cases s.get c name with
    | error error => exact .refused error
    | ok blob =>
      refine .answered rfl (mirrors.insert rfl rfl rfl rfl ?_)
      have replaced := NameTable.map_insert (Blob.retag f) held.blobs name { blob with metadata }
      exact congrArg (Container.mk _) replaced.symm

/-- A write under a tag that stands for the tag of the same write in the other store. -/
theorem put {content : List UInt8} {metadata : Option Metadata} {now : Timestamp}
    (taken : ∀ blob next, s.put c name content metadata now = .ok (blob, next) →
      f blob.tag = t.lastTag.next) :
    Matches f c (s.apply (.put c name content metadata now))
      (t.apply (.put c name content metadata now)) := by
  by_cases empty : name = ""
  · rw [apply, apply, Store.put, Store.put, if_pos empty, if_pos empty]
    exact .refused _
  · cases found : s.container c with
    | error error =>
      rw [apply, apply, Store.put, Store.put, if_neg empty, if_neg empty, mirrors.container_eq,
        found]
      exact .refused error
    | ok held =>
      have next := taken _ _ (put_eq_ok_iff.2 ⟨empty, held, container_eq_ok_iff.1 found, rfl, rfl⟩)
      have kept : ((held.retag f).blobs.get? name).map (·.metadata) =
          (held.blobs.get? name).map (·.metadata) := by
        rw [Container.retag, NameTable.get?_map, Option.map_map]
        rfl
      have written : t.written (held.retag f) c name content metadata now =
          (s.written held c name content metadata now).retag f := by
        rw [Store.written, kept, ← next]
        rfl
      rw [apply, apply, Store.put, Store.put, if_neg empty, if_neg empty, mirrors.container_eq,
        found]
      refine .answered (congrArg Reply.blob written) (mirrors.insert rfl rfl rfl rfl ?_)
      have replaced := NameTable.map_insert (Blob.retag f) held.blobs name
        (s.written held c name content metadata now)
      rw [← written] at replaced
      exact congrArg (Container.mk _) replaced.symm

end Blobs

section Listings

variable {query : Query} {target : Target}

theorem list_eq (resolved : query.target = .ok target) (here : target.container = c)
    (cursor : Option Cursor) : t.list query cursor = (s.list query cursor).map (Page.retag f) := by
  have begins (blobs : List Blob) : ((blobs.map (Blob.retag f)).takeWhile fun blob =>
      Text.startsWith target.namePrefix blob.name) = (blobs.takeWhile fun blob =>
        Text.startsWith target.namePrefix blob.name).map (Blob.retag f) := List.takeWhile_map
  subst here
  rw [Store.list, Store.list, pageSize_of_config mirrors.config, resolved]
  cases s.pageSize query with
  | error error => rfl
  | ok size =>
    cases cursor with
    | none =>
      simp only [bind, Except.bind, pure, Except.pure, mirrors.container_eq]
      cases s.container target.container with
      | error error => rfl
      | ok held =>
        simp only [Except.map, Container.retag, NameTable.atLeast_map, begins, page_retag]
    | some given =>
      simp only [bind, Except.bind, pure, Except.pure, mirrors.container_eq]
      cases given.validate query with
      | error error => rfl
      | ok accepted =>
        cases s.container target.container with
        | error error => rfl
        | ok held =>
          simp only [Except.map, Container.retag, NameTable.above_map, begins, page_retag]

theorem drains (resolved : query.target = .ok target) (here : target.container = c)
    {cursor : Option Cursor} {pages : List Page} (drained : s.Drains query cursor pages) :
    t.Drains query cursor (pages.map (Page.retag f)) := by
  induction drained with
  | last listed final =>
    have relisted := mirrors.list_eq resolved here
    exact .last (by rw [relisted, listed]; rfl) final
  | more listed continued _ ih =>
    have relisted := mirrors.list_eq resolved here
    exact .more (by rw [relisted, listed]; rfl) continued ih

theorem pages_eq (placed : s.WellFormed) (resolved : query.target = .ok target)
    (here : target.container = c) :
    t.pages query = (s.pages query).map (List.map (Page.retag f)) := by
  -- The stores allow for different numbers of pages, but neither number is ever reached.
  have relisted := mirrors.list_eq resolved here none
  rcases pages_cases placed query with ⟨error, refused, none⟩ | ⟨pages, drained, all⟩
  · rw [none, Store.pages, pagesFrom, relisted, refused]
    rfl
  · have again := mirrors.drains resolved here drained
    rcases pages_cases (mirrors.wellFormed placed) query with
      ⟨error, refused, _⟩ | ⟨others, redrained, reall⟩
    · obtain ⟨page, listed⟩ := again.listed
      cases refused.symm.trans listed
    · rw [all, reall, redrained.unique again]
      rfl

end Listings

/-- An operation about the container has matching answers, if a write takes the tag that stands for
the one it takes in the other store. -/
theorem apply {operation : Operation} (placed : s.WellFormed)
    (about : operation.container? = some c)
    (taken : ∀ reply next blob, s.apply operation = .ok (reply, next) →
      operation.written? reply = some blob → f blob.tag = t.lastTag.next) :
    Matches f c (s.apply operation) (t.apply operation) := by
  cases operation with
  | createContainer _ => cases about; exact mirrors.createContainer
  | deleteContainer _ => cases about; exact mirrors.deleteContainer
  | setContainerMetadata _ metadata => cases about; exact mirrors.setContainerMetadata metadata
  | delete _ name => cases about; exact mirrors.delete name
  | setMetadata _ name metadata => cases about; exact mirrors.setMetadata name metadata
  | put _ name content metadata now =>
    cases about
    refine mirrors.put name fun blob next done => taken (.blob blob) next blob ?_ rfl
    rw [Store.apply, done]
    rfl
  | get _ name =>
    cases about
    exact mirrors.read (mirrors.get_eq name) fun _ => rfl
  | containerMetadata _ =>
    cases about
    have same : t.containerMetadata c = (s.containerMetadata c).map id := by
      rw [containerMetadata, containerMetadata, mirrors.container_eq]
      cases s.container c <;> rfl
    exact mirrors.read same fun _ => rfl
  | containerExists _ =>
    cases about
    exact .answered (congrArg Reply.flag mirrors.containerExists_eq) mirrors
  | blobCount _ =>
    cases about
    have same : t.blobCount? c = s.blobCount? c := by
      rw [blobCount?, blobCount?, mirrors.container, Option.map_map]
      exact congrArg (Option.map · _) (funext fun held => NameTable.size_map _ _)
    exact .answered (congrArg Reply.count same) mirrors
  | list query cursor =>
    obtain ⟨target, resolved, here⟩ := target_of_container? about
    exact mirrors.read (mirrors.list_eq resolved here cursor) fun _ => rfl
  | pages query =>
    obtain ⟨target, resolved, here⟩ := target_of_container? about
    exact mirrors.read (mirrors.pages_eq placed resolved here) fun _ => rfl
  | listAll query =>
    obtain ⟨target, resolved, here⟩ := target_of_container? about
    have same : t.listAll query = (s.listAll query).map (List.map (Blob.retag f)) := by
      rw [listAll, listAll, mirrors.pages_eq placed resolved here]
      cases s.pages query with
      | error error => rfl
      | ok pages => exact congrArg Except.ok (blobs_of_pages_retag f pages)
    exact mirrors.read same fun _ => rfl
  | containerNames | service | setService _ | size | inspect => cases about

end Mirrors

end Store

end BlobDispatch
