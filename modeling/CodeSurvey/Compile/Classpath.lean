/-
Guessed class paths.

The class path of a module starts with the jars that it brings along. Words in its sources tell which libraries it uses;
jars of the caches whose names start like those libraries follow in walk order, but of each artifact only the first. A
class path has a limit, and what a smaller limit gives is the start of what a larger one gives.
-/
import CodeSurvey.Source.Files

namespace CodeSurvey.Classpath

open Text

/-- words in sources, and how the jars are named that they ask for -/
def keywordRows : List (List String × List String) :=
  [(["org.springframework", "@SpringBootApplication", "@Autowired"], ["spring-"]),
    (["javax.ejb", "jakarta.ejb", "javax.servlet", "jakarta.servlet", "javax.ws.rs", "jakarta.ws.rs"],
      ["javaee-api", "jakartaee-api", "javax.", "jakarta."]),
    (["org.camunda"], ["camunda-"]),
    (["org.apache.camel"], ["camel-"]),
    (["import feign.", "io.grpc", "javax.xml.ws", "jakarta.xml.ws"], ["feign-", "grpc-", "protobuf-", "jaxws-"]),
    (["javax.persistence", "jakarta.persistence", "org.hibernate"],
      ["hibernate-", "javax.persistence", "jakarta.persistence"]),
    (["lombok"], ["lombok"]),
    (["org.slf4j", "org.apache.log4j", "org.apache.logging"], ["slf4j-", "log4j-", "logback-"])]

/-- directories of a module that hold jars -/
def jarDirectories : List String := ["lib", "WEB-INF/lib", "src/main/webapp/WEB-INF/lib"]

/-- how deep jars lie in a cache -/
def cacheDepth : Nat := 10

/-- the text before the first hyphen that a digit follows, the whole text where there is none -/
def beforeVersion : List Char → List Char
  | [] => []
  | '-' :: c :: cs => if isAsciiDigit c then [] else '-' :: beforeVersion (c :: cs)
  | c :: cs => c :: beforeVersion cs

/-- the artifact that a jar's name tells -/
def artifact (jarName : String) : String :=
  String.ofList (beforeVersion ((stripEnd jarName ".jar").getD jarName).toList)

/-- the name of a jar with classes in it -/
def isLibrary (name : String) : Bool :=
  endsWith name ".jar" && !endsWith name "-sources.jar" && !endsWith name "-javadoc.jar"

/-- the starts of jar names that a source asks for -/
def startsOfText (text : String) : List String :=
  (keywordRows.filter fun row => row.1.any (contains text)).flatMap (·.2)

/-- the starts of jar names that the sources ask for -/
def starts (d : Disk) (sources : List FilePath) : NameSet :=
  .ofList ((sources.filterMap fun p => (d.sourceText p).toOption).flatMap startsOfText)

/-- the jars that a module brings along -/
def moduleJars (d : Disk) (root : FilePath) : List FilePath :=
  ((jarDirectories.map root.join).filter d.isDirectory).flatMap fun directory =>
    ((d.walkTo 1 directory).filter fun i => i.entry.isFile && isLibrary (i.name directory)).map (·.path directory)

/-- the jars of the caches that the starts ask for, with their names, in walk order -/
def cacheJars (d : Disk) (caches : List FilePath) (starts : NameSet) : List (String × FilePath) :=
  (caches.filter d.isDirectory).flatMap fun cache =>
    ((d.walkTo cacheDepth cache).map fun i => (i.name cache, i.path cache)).filter fun j =>
      isLibrary j.1 && starts.toList.any (startsWith j.1)

/-- the first `room` jars whose artifact is not there yet -/
def takeNew (seen : NameSet) : Nat → List (String × FilePath) → List FilePath
  | _, [] => []
  | room, (name, path) :: jars =>
    match room with
    | 0 => []
    | more + 1 =>
      if seen.contains (artifact name) then takeNew seen room jars
      else path :: takeNew (seen.add (artifact name)) more jars

/-- the artifacts of the jars -/
def artifacts (jars : List FilePath) : NameSet :=
  .ofList (jars.filterMap fun p => p.fileName.map artifact)

/-- the class path of a module, at most `limit` jars -/
def build (d : Disk) (caches : List FilePath) (limit : Nat) (root : FilePath) (sources : List FilePath) :
    List FilePath :=
  let own := (moduleJars d root).take limit
  let starts := starts d sources
  if starts.size = 0 then own
  else own ++ takeNew (artifacts own) (limit - own.length) (cacheJars d caches starts)

end CodeSurvey.Classpath
