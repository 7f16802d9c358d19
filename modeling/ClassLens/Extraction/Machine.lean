import ClassLens.Extraction.Outcome
import ClassLens.Shell.Execution

/-! # The machine

The files that a machine has of its own, and what comes of running a command on it. Nothing outside is
run: the programs are those of the catalogue.

* `Machine.files`: the machine's own files.
* `Machine.run`: what the system says of a command.
* `Machine.extract`: the rules that a command extracts from a stylesheet. -/

namespace ClassLens.Machine

open Shell

/-- Directories. -/
def directories : List String :=
  ["/usr/bin", "/usr/sbin", "/usr/lib", "/usr/lib64", "/usr/libexec", "/usr/include", "/usr/share/doc",
    "/usr/local/bin", "/usr/local/sbin", "/usr/local/lib", "/usr/local/etc", "/usr/local/share",
    "/usr/local/include", "/usr/local/src", "/usr/src", "/etc/default", "/etc/apt", "/etc/init.d",
    "/etc/profile.d", "/etc/ssl/certs", "/dev/pts", "/dev/shm", "/dev/mqueue", "/proc/self/fd",
    "/proc/1", "/proc/sys/kernel", "/sys/kernel", "/sys/class", "/sys/fs", "/tmp", "/var/tmp",
    "/var/log", "/var/lib", "/var/cache", "/var/spool", "/var/mail", "/var/opt", "/var/backups", "/opt",
    "/root", "/home", "/mnt", "/media", "/srv", "/run/lock", "/boot"]

/-- Other names for directories and files. -/
def links : List (String × String) :=
  [("/bin", "usr/bin"), ("/sbin", "usr/sbin"), ("/lib", "usr/lib"), ("/lib64", "usr/lib64"),
    ("/usr/bin/sh", "dash"), ("/var/run", "/run"), ("/var/lock", "/run/lock"),
    ("/etc/os-release", "../usr/lib/os-release"), ("/etc/mtab", "../proc/self/mounts"),
    ("/dev/fd", "/proc/self/fd"), ("/usr/bin/awk", "mawk"), ("/usr/bin/which", "which.debianutils")]

/-- Texts that a machine is set up by. -/
def texts : List (String × String) :=
  [("/etc/passwd", "root:x:0:0:root:/root:/bin/bash\n" ++
      "daemon:x:1:1:daemon:/usr/sbin:/usr/sbin/nologin\n" ++
      "bin:x:2:2:bin:/bin:/usr/sbin/nologin\n" ++
      "sys:x:3:3:sys:/dev:/usr/sbin/nologin\n" ++
      "sync:x:4:65534:sync:/bin:/bin/sync\n" ++
      "games:x:5:60:games:/usr/games:/usr/sbin/nologin\n" ++
      "man:x:6:12:man:/var/cache/man:/usr/sbin/nologin\n" ++
      "lp:x:7:7:lp:/var/spool/lpd:/usr/sbin/nologin\n" ++
      "mail:x:8:8:mail:/var/mail:/usr/sbin/nologin\n" ++
      "news:x:9:9:news:/var/spool/news:/usr/sbin/nologin\n" ++
      "uucp:x:10:10:uucp:/var/spool/uucp:/usr/sbin/nologin\n" ++
      "proxy:x:13:13:proxy:/bin:/usr/sbin/nologin\n" ++
      "www-data:x:33:33:www-data:/var/www:/usr/sbin/nologin\n" ++
      "backup:x:34:34:backup:/var/backups:/usr/sbin/nologin\n" ++
      "list:x:38:38:Mailing List Manager:/var/list:/usr/sbin/nologin\n" ++
      "irc:x:39:39:ircd:/run/ircd:/usr/sbin/nologin\n" ++
      "_apt:x:42:65534::/nonexistent:/usr/sbin/nologin\n" ++
      "nobody:x:65534:65534:nobody:/nonexistent:/usr/sbin/nologin\n"),
    ("/etc/group", "root:x:0:\ndaemon:x:1:\nbin:x:2:\nsys:x:3:\nadm:x:4:\ntty:x:5:\ndisk:x:6:\nlp:x:7:\n" ++
      "mail:x:8:\nnews:x:9:\nuucp:x:10:\nman:x:12:\nproxy:x:13:\nkmem:x:15:\ndialout:x:20:\nfax:x:21:\n" ++
      "users:x:100:\nnogroup:x:65534:\n"),
    ("/etc/hosts", "127.0.0.1\tlocalhost\n::1\tlocalhost ip6-localhost ip6-loopback\n"),
    ("/etc/hostname", "localhost\n"), ("/etc/resolv.conf", "nameserver 127.0.0.1\n"),
    ("/etc/shells", "# /etc/shells: valid login shells\n/bin/sh\n/usr/bin/sh\n/bin/bash\n/usr/bin/bash\n" ++
      "/bin/dash\n/usr/bin/dash\n"),
    ("/usr/lib/os-release", "NAME=\"Debian GNU/Linux\"\nID=debian\n"), ("/etc/debian_version", "12\n"),
    ("/etc/shadow", "root:*:19000:0:99999:7:::\n"), ("/etc/fstab", "# UNCONFIGURED FSTAB FOR BASE SYSTEM\n"),
    ("/etc/profile", "umask 022\n"), ("/etc/bash.bashrc", ""), ("/etc/issue", "Debian GNU/Linux\n"),
    ("/etc/environment", ""), ("/etc/nsswitch.conf", "passwd: files\ngroup: files\nhosts: files dns\n"),
    ("/etc/services", "http\t80/tcp\n"), ("/etc/protocols", "ip\t0\tIP\n"), ("/etc/ld.so.conf", ""),
    ("/etc/login.defs", "MAIL_DIR /var/mail\n"), ("/root/.bashrc", ""), ("/root/.profile", ""),
    ("/proc/version", "Linux version\n"), ("/proc/cpuinfo", "processor\t: 0\n"),
    ("/proc/meminfo", "MemTotal: 1024 kB\n"), ("/proc/self/status", "State:\tR (running)\n"),
    ("/proc/self/comm", "sh\n"), ("/proc/self/mounts", ""), ("/proc/uptime", "1.00 1.00\n"),
    ("/proc/filesystems", "nodev\tproc\n"), ("/proc/loadavg", "0.00 0.00 0.00 1/100 1\n")]

/-- Programs that are there and of which nothing more is known. -/
def otherPrograms : List String :=
  ["ar", "as", "awk", "apt", "apt-get", "b2sum", "base32", "bunzip2", "bzip2",
    "cksum", "csplit", "df", "dircolors", "dmesg", "dpkg", "expand",
    "factor", "flock", "fmt", "free", "getconf", "getent", "getopt", "groups", "hostid",
    "hostname", "ionice", "ipcs", "kill", "last", "ld", "ldd", "locale", "logger",
    "login", "logname", "lsblk", "lscpu", "mawk", "md5sum", "mesg", "mkfifo", "mknod", "more",
    "mount", "mountpoint", "newgrp", "numfmt", "passwd", "pathchk", "pinky", "pr", "ps", "ptx",
    "renice", "run-parts", "runcon", "script", "sg", "sha1sum", "sha224sum", "sha256sum", "sha384sum",
    "sha512sum", "shred", "shuf", "split", "stty", "su", "sum", "tar", "tempfile", "tsort", "tty",
    "umount", "unexpand", "uniq", "users", "wall", "who", "zdiff",
    "zgrep", "zless", "zmore"]

/-- The machine's own files. -/
def files : FileTree :=
  let t : FileTree := directories.foldl (fun (t : FileTree) d => t.makeDirectory (Location.ofString d)) {}
  let t := texts.foldl (fun (t : FileTree) f => t.write (Path.ofString f.1) f.2) t
  let t := (otherPrograms ++ Tool.names).foldl
    (fun (t : FileTree) name => t.putAt (Location.ofString ("/usr/bin/" ++ name)) (.file (Tool.contentOf name) true)) t
  let t := links.foldl (fun (t : FileTree) l => t.putAt (Location.ofString l.1) (.link (Path.ofString l.2))) t
  let t := ["null", "full", "tty", "random", "urandom", "console", "ptmx"].foldl
    (fun (t : FileTree) name => t.putAt (Location.ofString ("/dev/" ++ name)) .sink) t
  let t := t.putAt (Location.ofString "/dev/zero") .zeros
  ["/tmp", "/var/tmp"].foldl (fun (t : FileTree) d => t.setMode (Location.ofString d) 0o1777) t

/-- What the system says where it does not run a file. -/
def denied : String := "Permission denied (os error 13)"

/-- What the system says of a path before it runs what the path names. -/
def launchFault? (t : FileTree) (path : Path) : Option Outcome :=
  match t.locate path with
  | .error .notFound => some .notFound
  | .error fault => some (.refused fault.message)
  | .ok here =>
    match t.node? here with
    | some (.file _ true) => none
    | _ => some (.refused denied)

/-- What the system says of a command before it runs it. One with a slash is a path, another one the name
of a program in one of some directories. -/
def fault? (t : FileTree) (command : String) (args : List String) : Option Outcome :=
  if (command :: args).any fun s => s.toList.contains '\x00' then
    some (.refused "nul byte found in provided data")
  else if command.toList.contains '/' then launchFault? t (.ofString command)
  else if (bytesOf command).length > FileTree.nameLimit then
    some (.refused ReadFault.nameTooLong.message)
  else if command = "" then some .notFound
  else
    let found := (defaultPath.splitOn ":").map fun dir =>
      launchFault? t (.ofString (dir ++ "/" ++ command))
    if found.any Option.isNone then none
    else
      let refusal := found.filterMap id |>.find? fun o => o != .notFound
      some (refusal.getD .notFound)

/-- How much input a program may leave unread before its writer notices. -/
def pipeCapacity : Nat := 65536

/-- The variables that programs start with. -/
def environment : Table String Variable :=
  let exported (value : String) : Variable := { value := some value, isExported := true }
  Table.empty.insert "PATH" (exported defaultPath) |>.insert "HOME" (exported "/root")

/-- How much a script may do. -/
def runFuel : Nat := 10000000

/-- What the system says of a command. -/
def run (t : FileTree) (command : String) (args : List String) (input : List UInt8) : Outcome :=
  match fault? t command args with
  | some outcome => outcome
  | none =>
    let descriptors : Table Nat Nat := Table.empty.insert 0 0 |>.insert 1 1 |>.insert 2 2
    let world : World :=
      { files := t, channels := #[.ofText (ofBytes input), .ofText "", .ofText ""], nextProcess := 101 }
    let sh : Shell := { name := command, process := 1, vars := environment, descriptors }
    let whole : Run Ending := do
      let e ← inProcess 100 (become runFuel ((command :: args).map ofText))
      settle runFuel .all
      return e
    let (r, s) := whole.run ⟨world, sh⟩
    let content (n : Nat) : List UInt8 :=
      toBytes ((s.world.channels[n]?.map Channel.waiting).getD "")
    if (content 0).length > pipeCapacity then
      .refused "failed to stream stylesheet to extractor: Broken pipe (os error 32)"
    else
      match r with
      | .ok e => .ended e (content 1) (content 2)
      | .error _ => .ended (.exited 2) (content 1) (content 2)

/-- The rules that a command extracts from a stylesheet. -/
def extract (t : FileTree) (command : String) (args : List String) (css : String) :
    Except ExtractionFault Sheet :=
  (run t command args (bytesOf css)).sheet command

end ClassLens.Machine
