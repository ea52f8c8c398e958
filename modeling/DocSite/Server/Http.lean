import DocSite.Server.Target
import DocSite.Text.Bytes
import DocSite.Text.Digit

/-!
# Requests and responses

What a server is asked and what it answers. In the path of a request, `%` and two hexadecimal digits stand
for a byte.
-/

namespace DocSite.Server

/-! ## §1 Requests -/

/-- A request without a body. -/
structure Request where
  method : Text := "GET".toList
  target : Text
  headers : List (Text × Text) := []
  deriving DecidableEq, Repr

namespace Request

/-- What the request is for. -/
def place (request : Request) : Target := Target.ofText request.target

/-- The path of the target. -/
def path (request : Request) : Text := request.place.path

/-- Whether the request wants the headers of the answer only. -/
def wantsHead (request : Request) : Bool := request.method = "HEAD".toList

/-- Whether the request asks for a page and changes nothing. -/
def isRead (request : Request) : Bool := request.method = "GET".toList || request.wantsHead

/-- The value of a header; the case of its name does not count. -/
def header? (request : Request) (name : String) : Option Text :=
  (request.headers.find? fun header =>
    header.1.map Char.toLower = name.toList.map Char.toLower).map (·.2)

end Request

/-! ## §2 Bytes in paths -/

/-- The bytes that a path stands for. A percent sign without two digits behind it stands for itself. -/
def pathBytes : Text → List UInt8
  | [] => []
  | '%' :: high :: low :: text =>
    match Text.hexDigit? high, Text.hexDigit? low with
    | some h, some l => UInt8.ofNat (16 * h + l) :: pathBytes text
    | _, _ => String.utf8EncodeChar '%' ++ pathBytes (high :: low :: text)
  | c :: text => String.utf8EncodeChar c ++ pathBytes text

/-- The text that a path stands for, if its bytes are well-formed. -/
def decodePath? (path : Text) : Option Text := Text.ofBytes? ⟨(pathBytes path).toArray⟩

/-! ## §3 Responses -/

/-- The answer to a request. -/
structure Response where
  status : Nat
  contentType : Option Text := none
  /-- Where else to look. -/
  location : Option Text := none
  /-- The methods that are allowed. -/
  allow : Option Text := none
  body : Bytes := .empty
  deriving DecidableEq

namespace Response

/-- A page. -/
def html (status : Nat) (page : Text) : Response where
  status := status
  contentType := some "text/html; charset=utf-8".toList
  body := page.toBytes

/-- A plain message. -/
def plain (status : Nat) (message : Text) : Response where
  status := status
  contentType := some "text/plain; charset=utf-8".toList
  body := message.toBytes

/-- Content of some type. -/
def content (contentType : String) (body : Text) : Response where
  status := 200
  contentType := some contentType.toList
  body := body.toBytes

/-- A hint to look elsewhere for now. -/
def redirect (location : Text) : Response where
  status := 307
  location := some location

/-- The answer to a method that is not allowed. -/
def wrongMethod : Response where
  status := 405
  allow := some "GET,HEAD".toList

/-- The response without its body if only the headers are wanted. -/
def fitTo (response : Response) (request : Request) : Response :=
  if request.wantsHead then { response with body := .empty } else response

end Response

/-! ## §4 Lines -/

/-- The header on a line. -/
def headerOfLine? (line : Text) : Option (Text × Text) :=
  (Text.cut? [':'] line).map fun (name, value) => (name, value.dropWhile (· = ' '))

/-- The request on several lines: first its method and target, then a header on each line. -/
def Request.ofLines? (lines : List Text) : Option Request :=
  match lines with
  | [] => none
  | first :: headers =>
    match Text.splitOn [' '] first with
    | method :: target :: _ => some { method, target, headers := headers.filterMap headerOfLine? }
    | _ => none

/-- The lines before the body of a response. -/
def Response.headLines (response : Response) : List Text :=
  let header (name : String) (value : Text) : Text := name.toList ++ ": ".toList ++ value
  ("HTTP/1.1 ".toList ++ Text.ofNat response.status ++ [' ']) ::
    ((response.contentType.map (header "content-type")).toList ++
      (response.location.map (header "location")).toList ++
      (response.allow.map (header "allow")).toList ++
      [header "content-length" (Text.ofNat response.body.size), []])

end DocSite.Server
