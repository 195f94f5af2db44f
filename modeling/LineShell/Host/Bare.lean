import LineShell.Host.Basic
import LineShell.Host.Utility.Table

/-! The files of a host on which nobody has put anything yet. -/
namespace LineShell.Host

/-- Directories of every host, by their permissions. -/
def directories : List (Nat × List String) :=
  [(0o755, ["boot", "dev", "dev/pts", "etc", "home", "media", "mnt", "opt", "opt/hsh", "run", "srv",
      "usr", "usr/bin", "usr/games", "usr/include", "usr/lib", "usr/lib64", "usr/libexec",
      "usr/local", "usr/local/bin", "usr/local/etc", "usr/local/games", "usr/local/include",
      "usr/local/lib", "usr/local/sbin", "usr/local/share", "usr/local/share/man",
      "usr/local/src", "usr/sbin", "usr/share", "usr/share/doc", "usr/share/man",
      "usr/share/zoneinfo", "usr/src", "var", "var/backups", "var/cache", "var/lib", "var/log",
      "var/opt", "var/spool"]),
    (0o555, ["proc", "sys", "sys/kernel"]), (0o700, ["root"]),
    (0o1777, ["dev/shm", "run/lock", "tmp", "var/tmp"]), (0o2775, ["var/local", "var/mail"])]

def devices : List (String × Device) :=
  [("null", .null), ("zero", .zero), ("full", .full), ("tty", .terminal)]

def links : List (String × String) :=
  [("bin", "usr/bin"), ("lib", "usr/lib"), ("lib64", "usr/lib64"), ("sbin", "usr/sbin"),
    ("var/lock", "/run/lock"), ("var/run", "/run"), ("usr/local/man", "share/man"),
    ("usr/bin/sh", "dash"), ("usr/bin/awk", "mawk"), ("usr/bin/nawk", "mawk"),
    ("dev/stdin", "/proc/self/fd/0"), ("dev/stdout", "/proc/self/fd/1"),
    ("dev/stderr", "/proc/self/fd/2"), ("dev/fd", "/proc/self/fd")]

/-- The users of a host, each with a number, a home directory and a shell. -/
def users : List (String × Nat × String × String) :=
  [("root", 0, "/root", "/bin/bash"), ("daemon", 1, "/usr/sbin", "/usr/sbin/nologin"),
    ("bin", 2, "/bin", "/usr/sbin/nologin"), ("sys", 3, "/dev", "/usr/sbin/nologin"),
    ("sync", 4, "/bin", "/bin/sync"), ("games", 5, "/usr/games", "/usr/sbin/nologin"),
    ("man", 6, "/var/cache/man", "/usr/sbin/nologin"),
    ("lp", 7, "/var/spool/lpd", "/usr/sbin/nologin"), ("mail", 8, "/var/mail", "/usr/sbin/nologin"),
    ("news", 9, "/var/spool/news", "/usr/sbin/nologin"),
    ("uucp", 10, "/var/spool/uucp", "/usr/sbin/nologin"), ("proxy", 13, "/bin", "/usr/sbin/nologin"),
    ("www-data", 33, "/var/www", "/usr/sbin/nologin"),
    ("backup", 34, "/var/backups", "/usr/sbin/nologin"),
    ("list", 38, "/var/list", "/usr/sbin/nologin"), ("irc", 39, "/run/ircd", "/usr/sbin/nologin"),
    ("_apt", 42, "/nonexistent", "/usr/sbin/nologin"),
    ("nobody", 65534, "/nonexistent", "/usr/sbin/nologin")]

/-- The group that a user belongs to, where it has not the number of the user. -/
def ownGroup (user : String) (number : Nat) : Nat :=
  match user with
  | "sync" | "_apt" => 65534
  | "games" => 60
  | "man" => 12
  | _ => number

/-- What a user is said to be, where that is not the name. -/
def fullName (user : String) : String :=
  match user with
  | "list" => "Mailing List Manager"
  | "irc" => "ircd"
  | "_apt" => ""
  | user => user

def groups : List (String × Nat) :=
  [("root", 0), ("daemon", 1), ("bin", 2), ("sys", 3), ("adm", 4), ("tty", 5), ("disk", 6),
    ("lp", 7), ("mail", 8), ("news", 9), ("uucp", 10), ("man", 12), ("proxy", 13), ("kmem", 15),
    ("dialout", 20), ("fax", 21), ("voice", 22), ("cdrom", 24), ("floppy", 25), ("tape", 26),
    ("sudo", 27), ("audio", 29), ("dip", 30), ("www-data", 33), ("backup", 34), ("operator", 37),
    ("list", 38), ("irc", 39), ("src", 40), ("shadow", 42), ("utmp", 43), ("video", 44),
    ("sasl", 45), ("plugdev", 46), ("staff", 50), ("games", 60), ("users", 100),
    ("nogroup", 65534)]

def fieldLine (fields : List String) : Text :=
  Text.line (Text.joined [':'] (fields.map String.toList))

def userLines : Text :=
  users.flatMap fun (name, number, home, shell) =>
    fieldLine [name, "x", toString number, toString (ownGroup name number), fullName name, home,
      shell]

def groupLines : Text :=
  groups.flatMap fun (name, number) => fieldLine [name, "x", toString number, ""]

def texts : List (String × Nat × Text) :=
  [("etc/passwd", 0o644, userLines), ("etc/group", 0o644, groupLines),
    ("etc/hosts", 0o644, "127.0.0.1\tlocalhost\n".toList),
    ("etc/shells", 0o644, ("# /etc/shells: valid login shells\n/bin/sh\n/usr/bin/sh\n" ++
      "/bin/bash\n/usr/bin/bash\n/bin/rbash\n/usr/bin/rbash\n/usr/bin/dash\n" ++
      "/bin/dash\n").toList),
    ("etc/shadow", 0o640, users.flatMap fun (name, _) =>
      fieldLine [name, "*", "20000", "0", "99999", "7", "", "", ""])]

/-- Programs that are there, though nothing is known of what they do. -/
def otherPrograms : List Text :=
  (splitWhere (· == ' ') ("addpart apt apt-cache apt-cdrom apt-config apt-get apt-key apt-mark " ++
    "bash bashbug captoinfo chage chattr chcon chfn choom chrt chsh clear clear_console " ++
    "deb-systemd-helper deb-systemd-invoke debconf debconf-apt-progress debconf-communicate " ++
    "debconf-copydb debconf-escape debconf-set-selections debconf-show delpart df diff3 dircolors " ++
    "dmesg dnsdomainname domainname dpkg dpkg-deb dpkg-divert dpkg-maintscript-helper dpkg-query " ++
    "dpkg-realpath dpkg-split dpkg-statoverride dpkg-trigger expiry faillog fallocate fincore " ++
    "findmnt getconf getent gpasswd gpgv gunzip gzexe gzip hostid hostname i386 iconv " ++
    "infocmp infotocap ionice ipcmk ipcrm ipcs ischroot last lastb lastlog ldd linux32 linux64 " ++
    "locale localedef logger login lsattr lsblk lscpu lsipc lslocks lslogins lsmem lsns mcookie " ++
    "mesg mknod more mount mountpoint namei newgrp nisdomainname nsenter pager partx passwd perl " ++
    "perl5.36.0 pinky pldd prlimit ptx rbash renice reset resizepart rgrep run-parts runcon " ++
    "savelog script scriptlive scriptreplay sdiff select-editor sensible-browser sensible-editor " ++
    "sensible-pager setarch setpriv setterm sg shred stdbuf stty su tabs tar taskset tic toe tput " ++
    "tset tzselect umount unshare update-alternatives utmpdump wall wdctl whereis which.debianutils " ++
    "x86_64 ypdomainname zcat zcmp zdiff zdump zegrep zfgrep zforce zgrep zless zmore znew").toList)

/-- The location that a path without links in it names. -/
def place (path : String) : Location := splitWhere (· == '/') path.toList

/-- When the files of a host are made, in nanoseconds. -/
def firstTime : Nat := 1750000000 * 1000000000

/-- The files of a host that holds nothing but its programs. -/
def bareFiles : FileSystem :=
  let files := directories.foldl
    (fun files (mode, paths) =>
      paths.foldl (fun files path => files.putDirectory (place path) mode) files)
    ({ now := firstTime } : FileSystem)
  let files := devices.foldl
    (fun files (name, device) => files.put ["dev".toList, name.toList] (.device device)) files
  let files := links.foldl
    (fun files (path, target) => files.put (place path) (.link (.ofText target.toList))) files
  let files := texts.foldl
    (fun files (path, mode, t) => (files.putFile (place path) mode t.toBytes).2) files
  let program (name : Text) : Bytes := FileSystem.programMark ++ name.toBytes
  let putProgram (files : FileSystem) (location : Location) (name : Text) : FileSystem :=
    (files.putFile location 0o755 (program name)).2
  let own := splitWhere (· == '/') shellProgram.octets.tail
  let files := putProgram files own "hsh".toList
  (Utility.names ++ otherPrograms).foldl
    (fun files name => putProgram files (place "usr/bin" ++ [name]) name) files

end LineShell.Host
