import DocSite.Files.Access
import DocSite.Server.ByteRange
import DocSite.Server.Http
import DocSite.Server.MediaType
import DocSite.Server.Moment

/-!
# Serving a folder

The files of a folder are served under their paths. A folder is served by its index page, at a path that
ends with a slash; no path leads out of the folder that is served. A request may set conditions on the time
at which a file was changed, and may ask for parts of it.
-/

namespace DocSite.Server

open Files

/-! ## §1 Files -/

/-- The answer with the content of a file. -/
def fileResponse (path : Path) (content : Bytes) : Response where
  status := 200
  contentType := some (mediaType path)
  body := content

/-- The moment in a header, in seconds since 1970. A header that names no moment does not count. -/
def momentIn? (request : Request) (name : String) : Option Nat :=
  (request.header? name).bind fun value => (Moment.ofText? value).map Moment.seconds

/-- The answer if the conditions of a request on the time of the last change are not met: a file that was to
be unchanged is not, or one that was to be new is not. -/
def unmet? (request : Request) (changed : Nat) : Option Response :=
  if ((momentIn? request "if-unmodified-since").any (· < changed)) then some { status := 412 }
  else if ((momentIn? request "if-modified-since").any (changed ≤ ·)) then some { status := 304 }
  else none

/-- The text of the header that asks for parts of a file. Only printable characters of ASCII and tabs can
stand in it. -/
def rangeText? (request : Request) : Option Text :=
  (request.header? "range").filter fun value =>
    value.all fun c => c = '\t' || (' ' ≤ c && c ≤ '~')

/-- The answer with the part of a file that a request asks for. Only a single part can be sent. -/
def partResponse (whole : Response) (text : Text) : Response :=
  let refused (message : Text) : Response :=
    { whole with status := 416, body := message.toBytes }
  match (ByteRange.ofText? text).bind (ByteRange.resolve? whole.body.size) with
  | none | some [] => refused []
  | some [part] => { whole with status := 206, body := ByteRange.extract whole.body part }
  | some _ => refused "Cannot serve multipart range requests".toList

/-- The answer from a file that was last changed at some time. -/
def serveFile (path : Path) (content : Bytes) (changed : Nat) (request : Request) : Response :=
  match unmet? request changed with
  | some response => response
  | none =>
    match rangeText? request with
    | none => fileResponse path content
    | some text => partResponse (fileResponse path content) text

/-! ## §2 Folders -/

/-- The names below a folder to which a path of a request leads; `none` if it leads elsewhere. -/
def namesBelow? (path : Text) : Option (List Text) :=
  match decodePath? (path.dropWhile (· = '/')) with
  | none => none
  | some decoded =>
    if Path.isAbsolute decoded || (Path.names decoded).contains ['.', '.'] then none
    else some ((Path.names decoded).filter (· ≠ ['.']))

/-- The file below a folder that a request asks for, or an answer that needs no file. -/
def fileFor (disk : Disk) (folder : Path) (request : Request) (names : List Text) :
    Except Response Path :=
  let path := folder.joinAll names
  if !disk.hasFolder path then .ok path
  else if request.path.getLast? = some '/' then .ok (path.join "index.html".toList)
  else .error ((request.place.slashed?.map .redirect).getD { status := 500 })

/-- Answers a request from the files of a folder, which were last changed at some time; `missing` is the answer
when there is no file. -/
def serveFolder (disk : Disk) (folder : Path) (changed : Nat) (request : Request)
    (missing : Response) : Response :=
  if !request.isRead then .wrongMethod
  else
    match namesBelow? request.path with
    | none => missing
    | some names =>
      match fileFor disk folder request names with
      | .error response => response
      | .ok path =>
        match disk.read path with
        | .ok content => serveFile path content changed request
        | .error .notFound | .error .notFolder => missing
        | .error .nullCharacter => if request.wantsHead then { status := 500 } else missing
        | .error _ => { status := 500 }

end DocSite.Server
